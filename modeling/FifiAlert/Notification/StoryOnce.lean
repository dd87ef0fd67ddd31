import FifiAlert.Alert.AlertCalls
import FifiAlert.Concurrency.Interleaving
import FifiAlert.Notification.PushFanOut
import FifiAlert.Notification.QueueWorker
import FifiAlert.Notification.StoryFanOut

/-!
# A success story is told once

The claim closes the story of an alert in one step, and nothing opens it again. So of
any jobs at work, whichever of their calls fail, at most one passes the claim; and the
run that passes it tells the helpers.
-/

namespace FifiAlert

open Concurrency Store NotificationCall NotificationQueueProcessor

/-- The success story of the alert is still to be told. -/
def World.storyOpen (w : World) (alertId : ℕ) : Bool :=
  (w.alerts.find? alertId).any fun a => a.success_story_sent_at.isNone

theorem count_unclaimed (w : World) (alertId : ℕ) :
    (w.alerts.count fun a => a.unclaimed alertId) = if w.storyOpen alertId then 1 else 0 :=
  Table.count_key w.alerts alertId fun a => a.success_story_sent_at.isNone

/-- A claim that changes a row is passed. -/
def storyMark {ι : Type*} (_ : ι) : NotificationCall → World → Option ℕ
  | .alertClaimStory id _, w =>
      if (w.alerts.count fun a => a.unclaimed id) = 0 then none else some id
  | _, _ => none

/-- Any call may fail, and the other services do not open the story of the alert. -/
def storySetting (ι : Type*) (alertId : ℕ) : Setting ι World NotificationCall ℕ where
  mark := storyMark
  env := fun w w' => w'.storyOpen alertId = true → w.storyOpen alertId = true
  mayFail := fun _ => True
  admits := fun _ _ _ => True

/-- An update that keeps the claims opens no story. -/
theorem storyOpen_of_updateMany {w w' : World} {p : Alert → Bool} {f : Alert → Alert}
    (hf : ∀ a, (f a).id = a.id) {alertId : ℕ} (halerts : w'.alerts = w.alerts.updateMany p f hf)
    (hclaims : ∀ a, (f a).success_story_sent_at = none → a.success_story_sent_at = none)
    (h : w'.storyOpen alertId = true) : w.storyOpen alertId = true := by
  unfold World.storyOpen at h ⊢
  rw [halerts, Table.find?_updateMany] at h
  cases hfind : w.alerts.find? alertId with
  | none =>
      rw [hfind] at h
      exact h
  | some a =>
      rw [hfind, Option.map_some, Option.any_some, Option.isNone_iff_eq_none] at h
      rw [Option.any_some, Option.isNone_iff_eq_none]
      split at h
      · exact hclaims a h
      · exact h

section Once

variable {ι : Type*} {alertId : ℕ}

/-- Was the story told, or is it open? Never both, and never twice. -/
def ToldOnce (alertId : ℕ) (s : Snapshot World ℕ) : Prop :=
  s.marks.count alertId + (if s.state.storyOpen alertId then 1 else 0) ≤ 1

theorem ToldOnce.of_closed {s : Snapshot World ℕ} {w : World} (h : ToldOnce alertId s)
    (hopen : w.storyOpen alertId = true → s.state.storyOpen alertId = true) :
    ToldOnce alertId ⟨w, s.marks⟩ := by
  unfold ToldOnce at h ⊢
  dsimp only
  cases hw : w.storyOpen alertId with
  | false =>
      rw [if_neg Bool.false_ne_true]
      omega
  | true =>
      rw [hopen hw] at h
      exact h

theorem storyOpen_claim (alertId : ℕ) (w : World) (date : Time) :
    ((alertClaimStory alertId date).effect w).storyOpen alertId = false := by
  have hfind : ((alertClaimStory alertId date).effect w).alerts.find? alertId = _ :=
    Table.find?_updateMany w.alerts (fun a => a.unclaimed alertId)
      (fun a => { a with success_story_sent_at := some date }) (fun _ => rfl) alertId
  unfold World.storyOpen
  rw [hfind]
  cases h : w.alerts.find? alertId with
  | none => rfl
  | some a =>
      have hid : a.id = alertId := Table.key_of_find? h
      cases hsent : a.success_story_sent_at <;> simp [Alert.unclaimed, hid, hsent]

theorem toldOnce_claim {i : ι} {id : ℕ} {date : Time} {s : Snapshot World ℕ}
    (h : ToldOnce alertId s) :
    ToldOnce alertId (s.after storyMark i (.alertClaimStory id date)
      (alertClaimStory id date).effect) := by
  have hcount := count_unclaimed s.state id
  have hmark : storyMark i (.alertClaimStory id date) s.state =
      if (s.state.alerts.count fun a => a.unclaimed id) = 0 then none else some id := rfl
  by_cases hid : id = alertId
  · subst hid
    unfold ToldOnce at h ⊢
    rw [Snapshot.after, hmark, storyOpen_claim, hcount]
    cases hopen : s.state.storyOpen id with
    | false =>
        rw [hopen] at h
        exact h
    | true =>
        rw [hopen, if_pos rfl] at h
        simp only [if_true, Nat.one_ne_zero, if_false, Option.toList_some, List.singleton_append,
          List.count_cons_self, Bool.false_eq_true]
        exact h
  · have hmarks : (s.after storyMark i (.alertClaimStory id date)
        (alertClaimStory id date).effect).marks.count alertId = s.marks.count alertId := by
      rw [Snapshot.after, hmark]
      split
      · rfl
      · exact List.count_cons_of_ne hid
    have hkept := h.of_closed (w := (alertClaimStory id date).effect s.state) fun hopen => by
      refine storyOpen_of_updateMany ?_ rfl ?_ hopen
      · exact fun _ => rfl
      · exact fun _ ha => by cases ha
    unfold ToldOnce at hkept ⊢
    rw [hmarks]
    exact hkept

/-- Every call of a worker keeps the story told at most once. -/
theorem toldOnce_call (i : ι) (l : NotificationCall) {s : Snapshot World ℕ}
    (h : ToldOnce alertId s) : ToldOnce alertId (s.after storyMark i l l.effect) := by
  cases l with
  | alertClaimStory id date => exact toldOnce_claim h
  | notificationCreate data =>
      have heffect : (notificationCreate data).effect s.state =
        if s.state.takesNotification data then s.state.createNotification data else s.state := rfl
      refine h.of_closed fun hopen => ?_
      rw [heffect] at hopen
      split at hopen <;> exact hopen
  | sendNotification push =>
      have heffect : (NotificationCall.sendNotification push).effect s.state =
        if s.state.pushTaken push then
          { s.state with pushes := s.state.pushes ++ [push] } else s.state := rfl
      refine h.of_closed fun hopen => ?_
      rw [heffect] at hopen
      split at hopen <;> exact hopen
  | _ => exact h.of_closed id

end Once

/-- Of any jobs at work at the same time, with their retries, at most one passes the claim of
the alert's story; and the run that does tells exactly the helpers. -/
theorem successStory_told_once {ι : Type*} [DecidableEq ι] (E : NotificationEnv) (P : PushEnv)
    (alertId : ℕ) :
    (∀ (w : World) (job : ι → Job) (retries : ι → ℕ)
        (c : Config ι World NotificationCall AppError Unit ℕ),
      Reaches (storySetting ι alertId)
        (Config.init w fun i => withRetries (retries i) (process E P (job i))) c →
      c.marks.count alertId ≤ 1) ∧
    ∀ (w : World) (alert : Alert), w.alerts.find? alertId = some alert →
      (∃ s ∈ w.reunionSnapshots.rows, s.alertId = alertId) → alert.success_story_sent_at = none →
      ∃ w', (processSuccessStory alertId).run w = (.ok (), w') ∧
        StoryTold w w' alertId alert.creator_id := by
  constructor
  · intro w job retries c hreach
    have htold : ToldOnce alertId c.toSnapshot := by
      refine hreach.confined (P := fun _ l f => f = l.effect) (R := fun _ _ => True) ?_ ?_
        (fun i => withRetries_confined (process_confined E P (job i)) (retries i)) ?_
      · rintro i l next s rfl - h
        exact toldOnce_call i l h
      · intro s s' m henv h
        exact h.of_closed henv
      · have hnone : ToldOnce alertId ⟨w, []⟩ := by
          unfold ToldOnce
          cases w.storyOpen alertId <;> simp
        exact hnone
    exact Nat.le_trans (Nat.le_add_right _ _) htold
  · intro w alert hrow hsnapshot hunclaimed
    exact ⟨_, processSuccessStory_run hrow hsnapshot hunclaimed, storyTold_of_acts w alertId _⟩

/-- The push services of a test: all set up. -/
def readyPush : PushEnv where
  isInitialized := fun _ => true
  JSON_parse := fun _ => none
  message := fun _ => "failed"

/-- User 2 got the alert on device 20, and the pet came home. -/
def storyWorld : World :=
  { zoneWorld with
    notifications := Serial.empty.create (fun id =>
      { id, alert_id := 7, device_id := 20, confidence := .HIGH, match_reason := "GPS",
        status := .SENT }) (fun _ => rfl)
    reunionSnapshots := Table.empty.insertNew
      { tagId := "tag", alertId := 7, petName := "Fifi", resolvedAt := 0, expiresAt := 0 } }

/-- Two jobs for the same story, one after the other at every call. -/
theorem successStory_told_once_seven :
    let job : Bool → Job := fun _ => .sendSuccessStory 7
    ((Config.init storyWorld fun i => withRetries 2 (process flatEnv readyPush (job i))).schedule
        (storySetting Bool 7).mark [true, false, true, false, true, false]).marks.count 7 ≤ 1 ∧
      ∃ w', (processSuccessStory 7).run storyWorld = (.ok (), w') ∧
        StoryTold storyWorld w' 7 1 := by
  intro job
  have h := successStory_told_once (ι := Bool) flatEnv readyPush 7
  exact ⟨h.1 storyWorld job (fun _ => 2) _ (Reaches.schedule (fun _ _ _ => trivial) _ _),
    h.2 storyWorld lostPet (by rfl) ⟨_, List.mem_cons_self, rfl⟩ rfl⟩

end FifiAlert
