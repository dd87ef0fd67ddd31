import FifiAlert.Notification.PushNotification
import FifiAlert.Notification.SuccessStory
import FifiAlert.Notification.WaveCalls

/-!
# The queue worker

A worker hands a job to its handler, and an attempt that throws is repeated. The calls
of the handlers are those of their pushes, their claims and their updates; all others
are silent.
-/

namespace FifiAlert

open Concurrency Store Js LocationService NotificationCall NotificationQueueProcessor

namespace NotificationQueueProcessor

/-- The handler of a job. -/
def process (E : NotificationEnv) (P : PushEnv) : Job → NotificationProcess Unit
  | .sendAlertNotifications alertId wave _ => processAlertNotifications E alertId wave
  | .sendPushNotification notificationId => processPushNotification P notificationId
  | .sendSuccessStory alertId => processSuccessStory alertId

/-- An attempt that throws is repeated up to so many times. -/
def withRetries : ℕ → NotificationProcess Unit → NotificationProcess Unit
  | 0, attempt => attempt
  | n + 1, attempt => attempt.tryCatch fun _ => withRetries n attempt

end NotificationQueueProcessor

theorem withRetries_confined {P : NotificationCall → (World → World) → Prop}
    {p : NotificationProcess Unit} (hp : p.Confined P fun _ => True) (n : ℕ) :
    (withRetries n p).Confined P fun _ => True := by
  induction n with
  | zero => exact hp
  | succ n ih => exact hp.tryCatch fun _ _ => ih

section Story

variable {alertId : ℕ}

theorem silent_recordStoryEmail (device? : Option Device) (sent : Bool) :
    Silent (recordStoryEmail alertId device? sent) := by
  cases device? with
  | none => trivial
  | some device =>
      refine Process.Confined.tryCatch (T := fun _ => True) ?_ fun _ _ => trivial
      apply silent_dateNow.bind
      intro now
      exact (silent_create rfl).map _

theorem silent_sendPetIsHomeEmail (userId : ℕ) :
    Silent (AlertEmailService.sendPetIsHomeEmail userId alertId) := by
  have hread : Silent (read (.userFindUnique userId) fun w => w.verifiedEmail userId) :=
    silent_read rfl rfl
  apply hread.bind
  intro email
  cases email with
  | none => trivial
  | some email =>
      have hsend : Silent (write (.sendHtml ⟨"petIsHome", email, alertId⟩)) :=
        Process.confined_modify ⟨rfl, rfl⟩ trivial
      exact Process.Confined.tryCatch (hsend.map _) fun e _ => trivial

theorem silent_emailHelper (devices : Assoc ℕ Device) (userId : ℕ) :
    Silent (emailHelper alertId devices userId) := by
  have hopted : Silent (AlertEmailService.isOptedIn userId) := silent_read rfl rfl
  apply hopted.bind
  intro optedIn
  cases optedIn with
  | false => trivial
  | true =>
      exact (silent_sendPetIsHomeEmail userId).bind fun sent => silent_recordStoryEmail _ sent

/-- The claimed story queues the rows of its pushes. -/
theorem tellStory_queues (creatorId : ℕ) :
    Queues (fun l => l.silent = true) (fun data => ∃ deviceId, data = storyData alertId deviceId)
      (tellStory alertId creatorId) := by
  apply Queues.bind (.quiet (silent_read rfl rfl))
  intro notified
  apply Queues.bind (.quiet (silent_read rfl rfl))
  intro reporters
  dsimp only
  split
  · exact .quiet trivial
  apply Queues.bind (.quiet (silent_read rfl rfl))
  intro devices
  apply Queues.bind (.forEach fun device => .push ⟨device.id, rfl⟩)
  intro _
  apply Queues.bind (.quiet (silent_read rfl rfl))
  intro owned
  exact .forEach fun userId => .quiet (silent_emailHelper _ userId)

/-- Besides the rows of its pushes the job makes its claim. -/
theorem processSuccessStory_queues :
    Queues (fun l => l.silent = true ∨ ∃ date, l = .alertClaimStory alertId date)
      (fun data => ∃ deviceId, data = storyData alertId deviceId)
      (processSuccessStory alertId) := by
  have hread : Silent (read (.alertFindStory alertId) fun w => w.findAlertStory alertId) :=
    silent_read rfl rfl
  have hclaim : (claimStory alertId).Confined (fun l f => f = l.effect ∧
      (l.silent = true ∨ ∃ date, l = .alertClaimStory alertId date)) fun _ => True := by
    apply (silent_dateNow.mono (fun l f h => ⟨h.1, Or.inl h.2⟩) fun _ => id).bind
    intro now
    exact Process.confined_modify ⟨rfl, .inr ⟨now, rfl⟩⟩ trivial
  apply Queues.bind (.silent hread fun l => .inl)
  intro found
  cases found with
  | none => exact .quiet trivial
  | some alert =>
      dsimp only
      split
      · exact .quiet trivial
      split
      · exact .quiet trivial
      apply Queues.bind (.quiet hclaim)
      intro claimed
      split
      · exact .quiet trivial
      · exact (tellStory_queues alert.creator_id).mono fun l => .inl

end Story

theorem silent_emitAudit (name : String) (payload : AuditEventPayload) :
    Silent (emitAudit name payload) :=
  Process.Confined.tryCatch (T := fun _ => True) (Process.confined_modify ⟨rfl, rfl⟩ trivial)
    fun _ _ => trivial

section Confined

variable {P : NotificationCall → (World → World) → Prop}

theorem updateNotification_confined {id : ℕ} {data : NotificationUpdate}
    (hupdate : P (.notificationUpdate id data) (notificationUpdate id data).effect) :
    (NotificationQueueProcessor.updateNotification id data).Confined P fun _ => True :=
  Process.confined_atomic hupdate (fun _ _ _ => trivial) trivial

theorem processPushNotification_confined (E : PushEnv) {id : ℕ}
    (hsilent : ∀ l, l.silent = true → P l l.effect)
    (hupdate : ∀ data, data.status = .FAILED ∨ data.status = .SENT →
      P (.notificationUpdate id data) (notificationUpdate id data).effect)
    (hclear : ∀ deviceId date, P (.deviceClearToken deviceId date)
      (deviceClearToken deviceId date).effect)
    (hsend : ∀ push, P (.sendNotification push)
      (NotificationCall.sendNotification push).effect) :
    (processPushNotification E id).Confined P fun _ => True := by
  have hnow : (LocationService.dateNow : NotificationProcess Time).Confined P fun _ => True :=
    silent_dateNow.confined hsilent
  have hfailed : ∀ reason, (markFailed id reason).Confined P fun _ => True :=
    fun reason => hnow.bind fun now => updateNotification_confined (hupdate _ (.inl rfl))
  have hsent : ∀ messageId, (markSent id messageId).Confined P fun _ => True :=
    fun messageId => hnow.bind fun now => updateNotification_confined (hupdate _ (.inr rfl))
  have htoken : ∀ deviceId, (clearToken deviceId).Confined P fun _ => True := by
    intro deviceId
    refine Process.Confined.tryCatch (T := fun _ => True) ?_ fun _ _ => trivial
    exact hnow.bind fun now =>
      Process.confined_atomic (hclear deviceId now) (fun _ _ _ => trivial) trivial
  have hservice : ∀ push, (FifiAlert.sendNotification E push).Confined P fun _ => True := by
    intro push
    unfold FifiAlert.sendNotification
    split
    · trivial
    split
    · trivial
    · exact Process.Confined.tryCatch (T := fun _ => True)
        (Process.confined_modify (hsend push) trivial) fun _ _ => trivial
  have haudit : ∀ name payload, (emitAudit name payload).Confined P fun _ => True :=
    fun name payload => (silent_emitAudit name payload).confined hsilent
  have hresult : ∀ view result, (handleSendResult id view result).Confined P fun _ => True := by
    intro view result
    unfold handleSendResult
    split
    · exact (hsent _).bind fun _ => haudit _ _
    apply (hfailed _).bind
    intro _
    have hclear : (if result.invalidToken then clearToken view.device.id else .ret ()).Confined P
        fun _ => True := by
      split
      · exact htoken _
      · trivial
    apply hclear.bind
    intro _
    apply (haudit _ _).bind
    intro _
    split <;> trivial
  have hread : Silent (read (.notificationFindUnique id) fun w => w.viewNotification id) :=
    silent_read rfl rfl
  refine Process.Confined.tryCatch (T := fun _ => True) ?_ fun e _ =>
    (hfailed _).bind fun _ => trivial
  apply (hread.confined hsilent).bind
  intro found
  cases found with
  | none => trivial
  | some view =>
      dsimp only
      cases truthy view.device.push_token with
      | none => exact hfailed _
      | some token => exact (hservice _).bind fun result => hresult _ result

/-- Every call of a worker rewrites the state by its effect. -/
theorem process_confined (E : NotificationEnv) (P : PushEnv) (job : Job) :
    (process E P job).Confined (fun l f => f = l.effect) fun _ => True := by
  cases job with
  | sendAlertNotifications alertId wave delay =>
      exact (processAlertNotifications_queues E wave).confined (fun _ _ => rfl) (fun _ _ => rfl)
        fun _ => rfl
  | sendPushNotification id =>
      exact processPushNotification_confined P (fun _ _ => rfl) (fun _ _ => rfl) (fun _ _ => rfl)
        fun _ => rfl
  | sendSuccessStory alertId =>
      exact processSuccessStory_queues.confined (fun _ _ => rfl) (fun _ _ => rfl) fun _ => rfl

end Confined

end FifiAlert
