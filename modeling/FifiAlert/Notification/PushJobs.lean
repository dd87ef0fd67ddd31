import FifiAlert.Notification.PushWorker

/-!
# The workers keep the ledger

The worker of a push knows its row and its push besides. So every call of a worker is
permitted where it makes it, whatever its job is and however often it tries.
-/

namespace FifiAlert

open Concurrency Store Js LocationService NotificationCall NotificationQueueProcessor

section Push

variable {alertId deviceId place id : ℕ} {s s' : QueueSnapshot}

/-- The worker has read the row of its push, so that what it makes of it is known. -/
structure Viewing (alertId deviceId place id : ℕ) (view : NotificationView) (s : QueueSnapshot) :
    Prop extends Working place (.sendPushNotification id) s where
  found : ∃ n, s.state.notifications.find? id = some n
  row : ∀ platform token,
    Push.isMissingPet ⟨id, view.device.id, platform, token, buildPushPayload view⟩ alertId
      deviceId = true → s.state.hasPushRow alertId deviceId id

theorem Viewing.aside {view : NotificationView} (h : Viewing alertId deviceId place id view s)
    (ha : Aside alertId deviceId place s s') : Viewing alertId deviceId place id view s' := by
  obtain ⟨n, hn⟩ := h.found
  obtain ⟨n', hn', -⟩ := ha.rows.row id n hn
  exact ⟨h.toWorking.aside ha, ⟨n', hn'⟩, fun platform token hp =>
    ha.rows.hasPushRow (h.row platform token hp)⟩

/-- The push of the worker was accepted. -/
structure Handed (place id : ℕ) (s : QueueSnapshot) : Prop where
  job : s.state.pushJobAt place id
  busy : .finished place ∉ s.marks
  found : ∃ n, s.state.notifications.find? id = some n

theorem Handed.aside (h : Handed place id s) (ha : Aside alertId deviceId place s s') :
    Handed place id s' := by
  obtain ⟨n, hn⟩ := h.found
  obtain ⟨n', hn', -⟩ := ha.rows.row id n hn
  exact ⟨ha.job _ h.job, fun hf => h.busy (ha.finished hf), n', hn'⟩

/-- The worker may finish. -/
structure Settled (place : ℕ) (job : Job) (s : QueueSnapshot) : Prop where
  job : s.state.jobs[place]? = some job
  busy : .finished place ∉ s.marks
  notFailed : ∀ push, .accepted place push ∈ s.marks → s.state.notFailed push.notificationId

theorem Working.settled {job : Job} (h : Working place job s) : Settled place job s :=
  ⟨h.job, h.busy, fun push hp => absurd hp (h.first push)⟩

theorem Settled.aside {job : Job} (hinv : PushLedger alertId deviceId s)
    (h : Settled place job s) (ha : Aside alertId deviceId place s s') : Settled place job s' := by
  refine ⟨ha.job job h.job, fun hf => h.busy (ha.finished hf), fun push hp => ?_⟩
  have hp := ha.accepted push hp
  exact ha.notFailed _ (hinv.accepted place push hp).1 (h.notFailed push hp)

theorem safe_markFailed (reason : String) (hs : Working place (.sendPushNotification id) s) :
    Safe (pushProtocol alertId deviceId).contract place
      (fun _ s' => Working place (.sendPushNotification id) s')
      ((markFailed id reason).relabel .call) s := by
  have hnow : (LocationService.dateNow : NotificationProcess Time).Confined
      (fun l f => f = l.effect ∧ l.worksOn (.sendPushNotification id)) fun _ => True :=
    silent_dateNow.confined fun l hl => ⟨rfl, worksOn_of_silent hl⟩
  exact safe_working (hnow.bind fun now => updateNotification_confined ⟨rfl, rfl⟩) hs

theorem safe_clearToken (device : ℕ) (hs : Working place (.sendPushNotification id) s) :
    Safe (pushProtocol alertId deviceId).contract place
      (fun _ s' => Working place (.sendPushNotification id) s')
      ((clearToken device).relabel .call) s := by
  have hnow : (LocationService.dateNow : NotificationProcess Time).Confined
      (fun l f => f = l.effect ∧ l.worksOn (.sendPushNotification id)) fun _ => True :=
    silent_dateNow.confined fun l hl => ⟨rfl, worksOn_of_silent hl⟩
  refine safe_working (Process.Confined.tryCatch (T := fun _ => True) ?_ fun _ _ => trivial) hs
  exact hnow.bind fun now => Process.confined_atomic ⟨rfl, trivial⟩ (fun _ _ _ => trivial) trivial

/-- Recording the accepted push does not fail, and lets the worker finish. -/
theorem safe_markSent (messageId : Option String) (hs : Handed place id s) :
    Safe (pushProtocol alertId deviceId).contract place
      (fun r s' => r = .ok () ∧ Settled place (.sendPushNotification id) s')
      ((markSent id messageId).relabel .call) s := by
  unfold markSent LocationService.dateNow NotificationQueueProcessor.updateNotification writeIf
  rw [Process.relabel_bind, Process.relabel_query]
  refine Protocol.safe_query_bind (fun _ => rfl) (fun hf => by cases hf) fun s₁ hr₁ _ => ?_
  have hs₁ := hs.aside (aside_of_interference hr₁)
  rw [Process.relabel_atomic]
  refine Protocol.safe_atomic rfl (fun hf => by cases hf) fun s₂ hr₂ _ _ => ?_
  have hs₂ := hs₁.aside (aside_of_interference hr₂)
  refine ⟨⟨hs₂.job, by simp⟩, fun hinv s₃ hr₃ _ => ⟨?_, ?_⟩⟩
  · obtain ⟨n, hn⟩ := hs₂.found
    simp only [hn, Option.isSome_some, if_true]
  · refine Settled.aside hinv ?_ (aside_of_interference hr₃)
    refine ⟨hs₂.job, hs₂.busy, fun push hp n hn => ?_⟩
    have hid : push.notificationId = id := pushJobAt_inj (hinv.accepted place push hp).1 hs₂.job
    have hfind : ((notificationUpdate id _).effect s₂.state).notifications.find? _ = some n := hn
    rw [hid, NotificationCall.effect, find?_updateNotification, Option.map_eq_some_iff] at hfind
    obtain ⟨n', hn', rfl⟩ := hfind
    rw [if_pos (Table.key_of_find? hn')]
    simp [Notification.update]

theorem after_send (place : ℕ) (push : Push) (s : QueueSnapshot) :
    s.after queueMark place (.call (.sendNotification push))
        (NotificationCall.sendNotification push).effect =
      if s.state.pushTaken push then
        ⟨{ s.state with pushes := s.state.pushes ++ [push] }, .accepted place push :: s.marks⟩
      else s := by
  have hmark : queueMark place (.call (.sendNotification push)) s.state =
    if s.state.pushTaken push then some (.accepted place push) else none := rfl
  unfold Snapshot.after
  rw [hmark, effect_send]
  split <;> rfl

/-- The push is accepted, or the worker has handed over nothing yet. -/
theorem safe_sendNotification (E : PushEnv) {view : NotificationView} (token : String)
    (hs : Viewing alertId deviceId place id view s) :
    Safe (pushProtocol alertId deviceId).contract place
      (fun r s' => ∃ result, r = .ok result ∧ (result.success = true → Handed place id s') ∧
        (result.success = false → Working place (.sendPushNotification id) s'))
      ((FifiAlert.sendNotification E ⟨id, view.device.id, view.device.platform, token,
        buildPushPayload view⟩).relabel .call) s := by
  have hnone : ∀ (s₁ : QueueSnapshot) (result : SendResult), result.success = false →
      Working place (.sendPushNotification id) s₁ →
      Safe (pushProtocol alertId deviceId).contract place
        (fun r s' => ∃ result, r = .ok result ∧ (result.success = true → Handed place id s') ∧
          (result.success = false → Working place (.sendPushNotification id) s'))
        ((Process.ret result : NotificationProcess SendResult).relabel .call) s₁ := by
    intro s₁ result hfalse hs₁
    refine Safe.ret fun s₂ hr _ => ⟨result, rfl, fun htrue => ?_, fun _ => ?_⟩
    · rw [hfalse] at htrue
      cases htrue
    · exact hs₁.aside (aside_of_interference hr)
  unfold FifiAlert.sendNotification
  split
  · exact hnone s _ rfl hs.toWorking
  split
  · exact hnone s _ rfl hs.toWorking
  rw [Process.relabel_tryCatch, Process.relabel_modify]
  apply Safe.tryCatch
  refine Protocol.safe_call rfl fun s₁ hr₁ _ => ?_
  have hs₁ := hs.aside (aside_of_interference hr₁)
  refine ⟨fun hadm => ⟨⟨hs₁.job, hs₁.first, hs₁.busy, hs₁.row _ _⟩, fun _ => ?_⟩, fun _ => ?_⟩
  · have hafter := after_send place ⟨id, view.device.id, view.device.platform, token,
      buildPushPayload view⟩ s₁
    have hanswered : _ → _ := hadm.2
    refine Safe.ret fun s₂ hr₂ _ => ⟨_, rfl, fun htrue => ?_, fun hfalse => ?_⟩
    · refine Handed.aside ?_ (aside_of_interference hr₂)
      split at hafter
      · refine hafter ▸ ⟨hs₁.job, fun hf => ?_, hs₁.found⟩
        exact hs₁.busy ((List.mem_cons.1 hf).resolve_left nofun)
      · exact (congrArg (Handed place id) hafter).mpr ⟨hs₁.job, hs₁.busy, hs₁.found⟩
    · refine Working.aside ?_ (aside_of_interference hr₂)
      rw [if_neg fun htaken => ne_true_of_eq_false hfalse (hanswered htaken)] at hafter
      exact (congrArg (Working place (.sendPushNotification id)) hafter).mpr hs₁.toWorking
  · refine Safe.raise fun s₂ hr₂ _ => ?_
    exact hnone s₂ _ rfl (hs₁.aside (aside_of_interference hr₂)).toWorking

end Push

/-- How an attempt at a job ends: it may be finished, or it threw and is still to be done. -/
def AttemptEnds (place : ℕ) (job : Job) : Except AppError Unit → QueueSnapshot → Prop
  | .ok _, s => Settled place job s
  | .error _, s => Working place job s

section Attempt

variable {alertId deviceId place : ℕ} {job : Job} {s : QueueSnapshot}

/-- An attempt keeps the ledger, whatever the others do. -/
def SafeAttempt (alertId deviceId place : ℕ) (job : Job) (p : NotificationProcess Unit) : Prop :=
  ∀ s, Working place job s → Safe (pushProtocol alertId deviceId).contract place
    (AttemptEnds place job) (p.relabel .call) s

theorem SafeAttempt.of_working {p : NotificationProcess Unit}
    (h : ∀ s, Working place job s → Safe (pushProtocol alertId deviceId).contract place
      (fun _ s' => Working place job s') (p.relabel .call) s) :
    SafeAttempt alertId deviceId place job p := by
  intro s hs
  refine Safe.mono (h s hs) ?_
  intro r s' _ hs'
  cases r with
  | ok a => exact hs'.settled
  | error e => exact hs'

theorem SafeAttempt.raise (e : AppError) : SafeAttempt alertId deviceId place job (.raise e) :=
  fun _ hs => Safe.raise fun _ hr _ => hs.aside (aside_of_interference hr)

theorem SafeAttempt.ret : SafeAttempt alertId deviceId place job (.ret ()) :=
  fun _ hs => Safe.ret fun _ hr _ => (hs.aside (aside_of_interference hr)).settled

/-- What becomes of the audit event does not matter to a worker that may finish. -/
theorem safe_emitAudit (name : String) (payload : AuditEventPayload)
    (hinv : PushLedger alertId deviceId s) (hs : Settled place job s) :
    Safe (pushProtocol alertId deviceId).contract place (AttemptEnds place job)
      ((emitAudit name payload).relabel .call) s := by
  unfold emitAudit write
  rw [Process.relabel_tryCatch, Process.relabel_modify]
  apply Safe.tryCatch
  refine Protocol.safe_call rfl fun s₁ hr₁ hinv₁ => ?_
  have hs₁ := hs.aside hinv (aside_of_interference hr₁)
  refine ⟨fun _ => ⟨trivial, fun _ => ?_⟩, fun _ => ?_⟩
  · exact Safe.ret fun s₂ hr₂ _ => hs₁.aside hinv₁ (aside_of_interference hr₂)
  · refine Safe.raise fun s₂ hr₂ hinv₂ => ?_
    have hs₂ := hs₁.aside hinv₁ (aside_of_interference hr₂)
    exact Safe.ret fun s₃ hr₃ _ => hs₂.aside hinv₂ (aside_of_interference hr₃)

theorem safeAttempt_handleSendResult {id : ℕ} (view : NotificationView) (result : SendResult)
    (hhanded : result.success = true → Handed place id s)
    (hworking : result.success = false → Working place (.sendPushNotification id) s) :
    Safe (pushProtocol alertId deviceId).contract place
      (AttemptEnds place (.sendPushNotification id))
      ((handleSendResult id view result).relabel .call) s := by
  unfold handleSendResult
  cases hsuccess : result.success with
  | true =>
      simp only [if_true]
      refine Safe.relabel_bind (safe_markSent result.messageId (hhanded hsuccess)) ?_ ?_
      · rintro e s' - ⟨heq, -⟩
        cases heq
      · rintro a s' hinv' ⟨-, hs'⟩
        exact safe_emitAudit _ _ hinv' hs'
  | false =>
      simp only [Bool.false_eq_true, if_false]
      refine Safe.relabel_bind (safe_markFailed _ (hworking hsuccess)) (fun _ _ _ h => h) ?_
      intro _ s₁ _ hs₁
      have hclear : Safe (pushProtocol alertId deviceId).contract place
          (fun _ s' => Working place (.sendPushNotification id) s')
          ((if result.invalidToken then clearToken view.device.id else .ret ()).relabel .call)
          s₁ := by
        split
        · exact safe_clearToken view.device.id hs₁
        · exact Safe.ret fun _ hr _ => hs₁.aside (aside_of_interference hr)
      refine Safe.relabel_bind hclear (fun _ _ _ h => h) ?_
      intro _ s₂ _ hs₂
      refine Safe.relabel_bind (hs₂.safe_silently (silent_emitAudit _ _)) (fun _ _ _ h => h) ?_
      intro _ s₃ _ hs₃
      split
      · exact SafeAttempt.ret s₃ hs₃
      · exact SafeAttempt.raise _ s₃ hs₃

/-- The push job. -/
theorem safeAttempt_processPushNotification (P : PushEnv) (id : ℕ) :
    SafeAttempt alertId deviceId place (.sendPushNotification id)
      (processPushNotification P id) := by
  intro s hs
  unfold processPushNotification
  rw [Process.relabel_tryCatch]
  apply Safe.tryCatch
  have hdeliver : Safe (pushProtocol alertId deviceId).contract place
      (AttemptEnds place (.sendPushNotification id)) ((deliver P id).relabel .call) s := by
    unfold deliver
    rw [Process.relabel_bind]
    apply Safe.bind
    refine Protocol.safe_call rfl fun s₁ hr₁ _ => ⟨fun _ => ⟨trivial, fun _ => ?_⟩, fun _ => ?_⟩
    · have hs₁ := hs.aside (aside_of_interference hr₁)
      refine Safe.ret fun s₂ hr₂ _ => ?_
      have ha₂ := aside_of_interference hr₂
      dsimp only
      cases hview : s₁.state.viewNotification id with
      | none => exact SafeAttempt.ret s₂ (hs₁.aside ha₂)
      | some view =>
          dsimp only
          cases truthy view.device.push_token with
          | none => exact SafeAttempt.of_working (fun _ => safe_markFailed _) s₂ (hs₁.aside ha₂)
          | some token =>
              have hviewing : Viewing alertId deviceId place id view s₁ :=
                ⟨hs₁, ⟨_, (find?_of_view hview).1⟩, fun _ _ => hasPushRow_of_isMissingPet hview⟩
              refine Safe.relabel_bind (safe_sendNotification P token (hviewing.aside ha₂)) ?_ ?_
              · rintro e s₃ - ⟨result, heq, -⟩
                cases heq
              · rintro a s₃ - ⟨result, heq, hhanded, hworking⟩
                cases heq
                exact safeAttempt_handleSendResult view a hhanded hworking
    · exact SafeAttempt.raise _ s₁ (hs.aside (aside_of_interference hr₁))
  refine Safe.mono hdeliver ?_
  intro r s' _ hs'
  cases r with
  | ok a => exact hs'
  | error e =>
      exact Safe.relabel_bind (safe_markFailed _ hs') (fun _ _ _ h => h) fun _ s'' _ hs'' =>
        SafeAttempt.raise e s'' hs''

theorem safeAttempt_process (E : NotificationEnv) (P : PushEnv) (job : Job) :
    SafeAttempt alertId deviceId place job (process E P job) := by
  cases job with
  | sendPushNotification id => exact safeAttempt_processPushNotification P id
  | sendAlertNotifications alert wave delay =>
      exact .of_working fun _ hs => hs.safe_processAlertNotifications E wave
  | sendSuccessStory alert =>
      refine .of_working fun _ => processSuccessStory_queues.safe ?_ ?_
      · rintro l (hl | ⟨date, rfl⟩)
        · exact worksOn_of_silent hl
        · trivial
      · rintro data ⟨deviceId', rfl⟩
        exact ⟨rfl, rfl⟩

/-- Repeating a safe attempt is safe. -/
theorem SafeAttempt.withRetries {p : NotificationProcess Unit}
    (hp : SafeAttempt alertId deviceId place job p) (n : ℕ) :
    SafeAttempt alertId deviceId place job (withRetries n p) := by
  induction n with
  | zero => exact hp
  | succ n ih =>
      intro s hs
      unfold NotificationQueueProcessor.withRetries
      rw [Process.relabel_tryCatch]
      apply Safe.tryCatch
      refine Safe.mono (hp s hs) ?_
      intro r s' _ hs'
      cases r with
      | ok a => exact hs'
      | error e => exact ih s' hs'

/-- The worker of any place keeps the ledger. -/
theorem safe_worker (E : NotificationEnv) (P : PushEnv) (retries place : ℕ)
    (hfirst : ∀ push, .accepted place push ∉ s.marks) (hbusy : .finished place ∉ s.marks) :
    Safe (pushProtocol alertId deviceId).contract place (fun _ _ => True)
      (worker E P retries place) s := by
  unfold worker
  refine Protocol.safe_query_bind (fun _ => rfl) nofun fun s₁ hr₁ _ => ?_
  have ha₁ := aside_of_interference hr₁
  cases hjob : s₁.state.jobs[place]? with
  | none => exact Safe.ret fun _ _ _ => trivial
  | some job =>
      have hs₁ : Working place job s₁ :=
        ⟨hjob, fun push hp => hfirst push (ha₁.accepted push hp), fun hf => hbusy (ha₁.finished hf)⟩
      dsimp only
      rw [Process.relabel_tryCatch]
      have hattempt : SafeAttempt alertId deviceId place job
          (withRetries retries (process E P job)) :=
        (safeAttempt_process E P job).withRetries retries
      apply Safe.bind
      apply Safe.tryCatch
      refine Safe.mono (hattempt s₁ hs₁) ?_
      have hfinish : ∀ s₂, Settled place job s₂ → PushLedger alertId deviceId s₂ →
          Safe (pushProtocol alertId deviceId).contract place (fun _ _ => True)
            (Process.query .finish (AppError.error "") fun _ => ()) s₂ := by
        intro s₂ hs₂ hinv₂
        refine Protocol.safe_call rfl fun s₃ hr₃ _ => ⟨fun _ => ⟨?_, fun _ => ?_⟩, nofun⟩
        · exact (hs₂.aside hinv₂ (aside_of_interference hr₃)).notFailed
        · exact Safe.ret fun _ _ _ => trivial
      intro r s₂ hinv₂ hs₂
      cases r with
      | ok a => exact hfinish s₂ hs₂ hinv₂
      | error e =>
          refine Safe.ret fun s₃ hr₃ hinv₃ => ?_
          exact hfinish s₃ (hs₂.aside (aside_of_interference hr₃)).settled hinv₃

end Attempt

end FifiAlert
