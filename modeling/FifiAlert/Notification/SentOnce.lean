import FifiAlert.Notification.PushAttempts
import FifiAlert.Notification.ReceiptOrder

/-!
# An accepted push is not sent again

The attempts at a job in the order of their code. Any workers in any interleaving, with any calls
failing and the database changing under them: nothing follows an accepted push but its record
exactly when the record follows at once, and always where accepted pushes can be recorded.
-/

namespace FifiAlert

open Concurrency Store Js NotificationCall NotificationQueueProcessor

section Walk

variable {sure : Prop} {place id : ℕ} {s : AttemptSnapshot} {α : Type}

/-- The worker has recorded no push. -/
abbrev AtWork (sure : Prop) (place : ℕ) (s : AttemptSnapshot) : Prop :=
  Idle sure (s.own AttemptMark.place place)

/-- The last thing the worker did was to hand over a push that was accepted. -/
def JustSent (sure : Prop) (place id : ℕ) (s : AttemptSnapshot) : Prop :=
  ∃ before, s.own AttemptMark.place place = .handed place id true :: before ∧ Idle sure before

theorem lasting_ownSends (A : List AttemptMark → Prop) :
    (attemptProtocol sure).Lasting place (fun m => decide (m.place = place))
      fun s => A (s.own AttemptMark.place place) :=
  .ownList AttemptMark.place_of A

theorem own_after_send (l : QueueCall) (next : World → World) :
    (s.after AttemptMark.of place l next).own AttemptMark.place place =
      (AttemptMark.of place l s.state).toList ++ s.own AttemptMark.place place :=
  Snapshot.own_after_self AttemptMark.place_of place l next

theorem JustSent.unrecorded (h : JustSent sure place id s) :
    ∀ m ∈ s.own AttemptMark.place place, m.isRecorded = false := by
  obtain ⟨before, hown, hbefore⟩ := h
  rw [hown]
  exact List.forall_mem_cons.2 ⟨rfl, hbefore.unrecorded⟩

/-- A call that leaves no mark. -/
theorem JustSent.unmarked {l : QueueCall} {next : World → World} (h : JustSent sure place id s)
    (hmark : AttemptMark.of place l s.state = none) :
    JustSent sure place id (s.after AttemptMark.of place l next) := by
  obtain ⟨before, hown, hbefore⟩ := h
  refine ⟨before, ?_, hbefore⟩
  rw [own_after_send, hmark]
  exact hown

/-- Where accepted pushes may stay unrecorded, nothing is known of one. -/
theorem JustSent.atWork (h : JustSent sure place id s) (hsure : ¬ sure) : AtWork sure place s :=
  ⟨h.unrecorded, fun h => absurd h hsure⟩

theorem JustSent.stable {s' : AttemptSnapshot} (h : JustSent sure place id s)
    (hr : Relation.ReflTransGen ((attemptProtocol sure).Interference place) s s') :
    JustSent sure place id s' :=
  (lasting_ownSends fun own => ∃ before, own = .handed place id true :: before ∧
    Idle sure before).stable h hr

theorem Idle.stable {s' : AttemptSnapshot} (h : AtWork sure place s)
    (hr : Relation.ReflTransGen ((attemptProtocol sure).Interference place) s s') :
    AtWork sure place s' :=
  (lasting_ownSends (Idle sure)).stable h hr

/-- A part of the code that hands over nothing and records no push. -/
theorem idle_attempt {p : NotificationProcess α} {R : AppError → Prop}
    (hp : p.Confined (fun l f => f = l.effect ∧ l.isIdle) R) (hs : AtWork sure place s) :
    Safe (attemptProtocol sure).contract place (fun _ s' => AtWork sure place s')
      (p.relabel .call) s := by
  refine Safe.mono (Protocol.safe_of_guarded (R := R) (Process.Confined.relabel (hp.mono ?_
    fun _ h => h)) (fun _ _ hs hr => hs.stable hr) hs) fun _ _ _ hr => hr.1
  rintro l f ⟨rfl, hl⟩
  refine ⟨rfl, fun s₁ _ _ hs₁ => ⟨fun m _ => ⟨hs₁.unrecorded, fun hsure => ?_⟩, ?_⟩⟩
  · exact .inr (hs₁.unsent hsure)
  · change Idle sure ((s₁.after AttemptMark.of place _ _).own AttemptMark.place place)
    rw [own_after_send]
    cases hm : AttemptMark.of place (.call l) s₁.state with
    | none => exact hs₁
    | some m =>
        obtain ⟨id, rfl⟩ := AttemptMark.of_isIdle hl hm
        exact hs₁.cons rfl fun _ => rfl

theorem isIdle_of_silent {l : NotificationCall} (h : l.silent = true) : l.isIdle := by
  cases l with
  | sendNotification _ => cases h
  | notificationUpdate _ _ => cases h
  | _ => trivial

/-- What an attempt that throws leaves to the next one. -/
def AttemptLeft (sure : Prop) (place : ℕ) : Except AppError Unit → AttemptSnapshot → Prop
  | .ok _, _ => True
  | .error _, s => AtWork sure place s

/-- From any moment at which the worker has recorded no push. -/
def AttemptSafe (sure : Prop) (place : ℕ) (p : NotificationProcess Unit) : Prop :=
  ∀ s, AtWork sure place s →
    Safe (attemptProtocol sure).contract place (AttemptLeft sure place) (p.relabel .call) s

theorem AttemptSafe.idle {p : NotificationProcess Unit}
    (hp : p.Confined (fun l f => f = l.effect ∧ l.isIdle) fun _ => True) :
    AttemptSafe sure place p := by
  refine fun s hs => Safe.mono (idle_attempt hp hs) fun r s' _ hs' => ?_
  cases r with
  | ok a => trivial
  | error e => exact hs'

/-- An idle part of the code, and what follows it. -/
theorem AttemptSafe.idle_bind {p : NotificationProcess α} {k : α → NotificationProcess Unit}
    (hp : p.Confined (fun l f => f = l.effect ∧ l.isIdle) fun _ => True)
    (hk : ∀ a, AttemptSafe sure place (k a)) : AttemptSafe sure place (p >>= k) := by
  intro s hs
  rw [Process.relabel_bind]
  refine Safe.bind (Safe.mono (idle_attempt hp hs) fun r s' _ hs' => ?_)
  cases r with
  | ok a => exact hk a s' hs'
  | error e => exact hs'

theorem markFailed_idle (id : ℕ) (reason : String) :
    (markFailed id reason).Confined (fun l f => f = l.effect ∧ l.isIdle) fun _ => True :=
  (silent_dateNow.mono (fun _ _ h => ⟨h.1, isIdle_of_silent h.2⟩) fun _ h => h).bind fun _ =>
    updateNotification_confined ⟨rfl, fun h => nomatch h⟩

theorem clearToken_idle (deviceId : ℕ) :
    (clearToken deviceId).Confined (fun l f => f = l.effect ∧ l.isIdle) fun _ => True := by
  refine Process.Confined.tryCatch (T := fun _ => True) ?_ fun _ _ => trivial
  refine (silent_dateNow.mono (fun _ _ h => ⟨h.1, isIdle_of_silent h.2⟩) fun _ h => h).bind ?_
  exact fun _ => Process.confined_atomic ⟨rfl, trivial⟩ (fun _ _ _ => trivial) trivial

/-- What becomes of an audit event is not noticed. -/
theorem emitAudit_attempt (name : String) (payload : AuditEventPayload) :
    Safe (attemptProtocol sure).contract place (AttemptLeft sure place)
      ((emitAudit name payload).relabel .call) s := by
  have hp : (emitAudit name payload).Confined (fun l f => f = l.effect ∧
      ∀ w, AttemptMark.of place (.call l) w = none) fun _ => False :=
    Process.Confined.tryCatch (T := fun _ => True)
      (Process.confined_modify ⟨rfl, fun _ => rfl⟩ trivial) fun _ _ => trivial
  refine Safe.mono (Protocol.Lasting.nothing.guarded trivial (Process.Confined.relabel
    (hp.mono ?_ fun _ h => h))) fun r s' _ hr => ?_
  · rintro l f ⟨rfl, hl⟩
    exact ⟨rfl, fun s m hm => absurd ((hl _).symm.trans hm) nofun, fun _ _ _ => rfl⟩
  · cases r with
    | ok a => trivial
    | error e => exact (hr.2 e rfl).elim

/-- The push is accepted, or nothing was sent. -/
theorem push_attempt (P : PushEnv) (push : Push) (hs : AtWork sure place s) :
    Safe (attemptProtocol sure).contract place
      (fun r s' => ∃ result, r = .ok result ∧
        (result.success = true → JustSent sure place push.notificationId s') ∧
        (result.success = false → AtWork sure place s'))
      ((FifiAlert.sendNotification P push).relabel .call) s := by
  have hrefused : ∀ (s₁ : AttemptSnapshot) (result : SendResult), result.success = false →
      AtWork sure place s₁ →
      Safe (attemptProtocol sure).contract place
        (fun r s' => ∃ result, r = .ok result ∧
          (result.success = true → JustSent sure place push.notificationId s') ∧
          (result.success = false → AtWork sure place s'))
        ((Process.ret result : NotificationProcess SendResult).relabel .call) s₁ := by
    refine fun s₁ result hfalse hs₁ => Safe.ret fun s₂ hr _ => ⟨result, rfl, fun htrue => ?_, ?_⟩
    · cases hfalse.symm.trans htrue
    · exact fun _ => hs₁.stable hr
  unfold FifiAlert.sendNotification
  split
  · exact hrefused s _ rfl hs
  split
  · exact hrefused s _ rfl hs
  rw [Process.relabel_tryCatch, Process.relabel_modify]
  refine Safe.tryCatch (Protocol.safe_call rfl fun s₁ hr₁ _ => ?_)
  have hs₁ := hs.stable hr₁
  have hown : ∀ next, (s₁.after AttemptMark.of place (.call (.sendNotification push)) next).own
      AttemptMark.place place =
        .handed place push.notificationId (s₁.state.pushReply push).success ::
          s₁.own AttemptMark.place place := own_after_send _
  refine ⟨fun _ => ⟨fun m _ => ⟨hs₁.unrecorded, fun hsure => .inr (hs₁.unsent hsure)⟩, fun _ => ?_⟩,
    fun _ => Safe.raise fun s₂ hr₂ _ => hrefused s₂ _ rfl (hs₁.stable hr₂)⟩
  refine Safe.ret fun s₂ hr₂ _ => ⟨_, rfl, fun htrue => ?_, fun hfalse => ?_⟩
  · refine JustSent.stable ⟨_, (hown _).trans ?_, hs₁⟩ hr₂
    rw [htrue]
  · refine Idle.stable ?_ hr₂
    change Idle sure ((s₁.after AttemptMark.of place _ _).own AttemptMark.place place)
    rw [hown]
    exact hs₁.cons rfl fun _ => hfalse

/-- After a push was accepted the worker records it, or it must not be sure that this is done. -/
theorem markSent_attempt (messageId : Option String) (hs : JustSent sure place id s) :
    Safe (attemptProtocol sure).contract place (AttemptLeft sure place)
      ((markSent id messageId).relabel .call) s := by
  have hunsure : ∀ {l : QueueCall}, l.records = true → (attemptSetting sure).mayFail l → ¬ sure :=
    fun hl hfail hsure => by cases hl.symm.trans (hfail hsure)
  unfold markSent LocationService.dateNow NotificationQueueProcessor.updateNotification writeIf
  rw [Process.relabel_bind, Process.relabel_query]
  refine Safe.bind (Protocol.safe_call rfl fun s₁ hr₁ _ => ?_)
  have hs₁ := hs.stable hr₁
  refine ⟨fun _ => ⟨fun m hm => (nomatch hm), fun _ => ?_⟩, fun hfail => ?_⟩
  · refine Safe.ret fun s₂ hr₂ _ => ?_
    have hs₂ : JustSent sure place id s₂ := (hs₁.unmarked rfl).stable hr₂
    dsimp only
    rw [Process.relabel_atomic]
    refine Protocol.safe_call rfl fun s₃ hr₃ _ => ?_
    have hs₃ := hs₂.stable hr₃
    refine ⟨fun hadm => ⟨fun m hm => ⟨hs₃.unrecorded, fun _ => ?_⟩, fun _ => ?_⟩, fun hfail => ?_⟩
    · rw [AttemptMark.of_update, AttemptMark.ofUpdate] at hm
      split at hm
      · cases hm
        exact .inl rfl
      · cases hm
    · cases hrow : (s₃.state.notifications.find? id).isSome with
      | true =>
          simp only [hrow, if_true]
          exact Safe.ret fun _ _ _ => trivial
      | false =>
          have hnot : ¬ sure := fun hsure => by cases hrow.symm.trans (hadm hsure rfl)
          simp only [hrow, Bool.false_eq_true, if_false]
          have hmissing : ¬ (s₃.state.notifications.find? id).isSome = true :=
            ne_true_of_eq_false hrow
          refine Safe.raise fun s₄ hr₄ _ => @JustSent.atWork sure place id s₄ ?_ hnot
          refine JustSent.stable (hs₃.unmarked ?_) hr₄
          rw [AttemptMark.of_update]
          exact if_neg hmissing
    · exact Safe.raise fun s₄ hr₄ _ => (hs₃.atWork (hunsure rfl hfail)).stable hr₄
  · exact Safe.raise fun s₂ hr₂ _ => (hs₁.atWork (hunsure rfl hfail)).stable hr₂

theorem handleSendResult_attempt {view : NotificationView} {result : SendResult}
    (hsent : result.success = true → JustSent sure place id s)
    (hrefused : result.success = false → AtWork sure place s) :
    Safe (attemptProtocol sure).contract place (AttemptLeft sure place)
      ((handleSendResult id view result).relabel .call) s := by
  unfold handleSendResult
  cases hsuccess : result.success with
  | true =>
      simp only [if_true]
      rw [Process.relabel_bind]
      refine Safe.bind (Safe.mono (markSent_attempt result.messageId (hsent hsuccess)) ?_)
      intro r s₁ _ hr
      cases r with
      | ok a => exact emitAudit_attempt _ _
      | error e => exact hr
  | false =>
      simp only [Bool.false_eq_true, if_false]
      refine AttemptSafe.idle ((markFailed_idle _ _).bind fun _ => ?_) s (hrefused hsuccess)
      refine Process.Confined.bind ?_ fun _ => ?_
      · split
        · exact clearToken_idle _
        · trivial
      refine ((silent_emitAudit _ _).mono (fun _ _ h => ⟨h.1, isIdle_of_silent h.2⟩)
        fun _ h => h).bind fun _ => ?_
      split <;> trivial

theorem processPushNotification_attempt (P : PushEnv) (id : ℕ) :
    AttemptSafe sure place (processPushNotification P id) := by
  have hdeliver : AttemptSafe sure place (deliver P id) := by
    have hread : Silent (read (.notificationFindUnique id) fun w => w.viewNotification id) :=
      silent_read rfl rfl
    refine AttemptSafe.idle_bind (hread.mono (fun _ _ h => ⟨h.1, isIdle_of_silent h.2⟩)
      fun _ h => h) fun found => ?_
    cases found with
    | none => exact .idle trivial
    | some view =>
        dsimp only
        cases truthy view.device.push_token with
        | none => exact .idle (markFailed_idle _ _)
        | some token =>
            intro s hs
            rw [Process.relabel_bind]
            refine Safe.bind (Safe.mono (push_attempt P _ hs) ?_)
            rintro r s₁ - ⟨result, rfl, hsent, hrefused⟩
            exact handleSendResult_attempt hsent hrefused
  intro s hs
  unfold processPushNotification
  rw [Process.relabel_tryCatch]
  refine Safe.tryCatch (Safe.mono (hdeliver s hs) fun r s₁ _ hs₁ => ?_)
  cases r with
  | ok a => trivial
  | error e => exact AttemptSafe.idle ((markFailed_idle _ _).bind fun _ => by trivial) s₁ hs₁

theorem process_attempt (E : NotificationEnv) (P : PushEnv) (job : Job) :
    AttemptSafe sure place (process E P job) := by
  cases job with
  | sendPushNotification id => exact processPushNotification_attempt P id
  | sendAlertNotifications alertId wave delay =>
      exact .idle ((processAlertNotifications_queues E wave).confined
        (fun _ hl => ⟨rfl, isIdle_of_silent hl⟩) (fun _ _ => ⟨rfl, trivial⟩)
        fun _ => ⟨rfl, trivial⟩)
  | sendSuccessStory alertId =>
      refine .idle (processSuccessStory_queues.confined (fun l hl => ⟨rfl, ?_⟩)
        (fun _ _ => ⟨rfl, trivial⟩) fun _ => ⟨rfl, trivial⟩)
      rcases hl with hl | ⟨date, rfl⟩
      · exact isIdle_of_silent hl
      · trivial

theorem AttemptSafe.withRetries {p : NotificationProcess Unit} (hp : AttemptSafe sure place p)
    (n : ℕ) :
    AttemptSafe sure place (withRetries n p) := by
  induction n with
  | zero => exact hp
  | succ n ih =>
      intro s hs
      unfold NotificationQueueProcessor.withRetries
      rw [Process.relabel_tryCatch]
      refine Safe.tryCatch (Safe.mono (hp s hs) fun r s₁ _ hs₁ => ?_)
      cases r with
      | ok a => trivial
      | error e => exact ih s₁ hs₁

/-- The worker of any place. -/
theorem worker_attempt (E : NotificationEnv) (P : PushEnv) (retries : ℕ)
    (hs : AtWork sure place s) :
    Safe (attemptProtocol sure).contract place (fun _ _ => True) (worker E P retries place) s := by
  have hfinish : ∀ s₁, Safe (attemptProtocol sure).contract place (fun _ _ => True)
      (Process.query .finish (AppError.error "") fun _ => ()) s₁ := fun s₁ =>
    Protocol.safe_call rfl fun _ _ _ => ⟨fun _ => ⟨fun _ hm => (nomatch hm), fun _ =>
      Safe.ret fun _ _ _ => trivial⟩, fun _ => Safe.raise fun _ _ _ => trivial⟩
  unfold worker
  refine Safe.bind (Protocol.safe_call rfl fun s₁ hr₁ _ => ?_)
  have hs₁ := hs.stable hr₁
  refine ⟨fun _ => ⟨fun _ hm => (nomatch hm), fun _ => ?_⟩,
    fun _ => Safe.raise fun _ _ _ => trivial⟩
  refine Safe.ret fun s₂ hr₂ _ => ?_
  have hs₂ : AtWork sure place s₂ := by
    refine Idle.stable ?_ hr₂
    change Idle sure ((s₁.after AttemptMark.of place _ _).own AttemptMark.place place)
    rw [own_after_send]
    exact hs₁
  dsimp only
  cases s₁.state.jobs[place]? with
  | none => exact Safe.ret fun _ _ _ => trivial
  | some job =>
      dsimp only
      rw [Process.relabel_tryCatch]
      refine Safe.bind (Safe.tryCatch (Safe.mono
        ((process_attempt E P job).withRetries retries s₂ hs₂) fun r s₃ _ _ => ?_))
      cases r with
      | ok a => exact hfinish s₃
      | error e => exact Safe.ret fun s₄ _ _ => hfinish s₄

end Walk

/-- The workers of the queue, none of which has started. -/
def attemptPool (E : NotificationEnv) (P : PushEnv) (retries : ℕ → ℕ) (w : World) :
    Config ℕ World QueueCall AppError Unit AttemptMark :=
  Config.init w fun place => worker E P (retries place) place

/-- Any workers in any interleaving, with any calls failing, any number of retries, and the
database changing in any way: nothing that a worker does follows an accepted push but the record
that it was sent, no failure and no second push, exactly when that record follows at once. Where
it is sure that accepted pushes are recorded, that is so in every state reached. -/
theorem pushSentOnce_iff (E : NotificationEnv) (P : PushEnv) (retries : ℕ → ℕ) (w : World)
    (sure : Prop) {c : Config ℕ World QueueCall AppError Unit AttemptMark}
    (h : Reaches (attemptSetting sure) (attemptPool E P retries w) c) (place : ℕ) :
    (SentOnce (c.own AttemptMark.place place) ↔ RecordedAtOnce (c.own AttemptMark.place place)) ∧
      (sure → SentOnce (c.own AttemptMark.place place)) := by
  have hsound : Sound (attemptProtocol sure).contract (fun _ _ _ => True)
      (attemptPool E P retries w) :=
    ⟨fun place => ⟨nofun, fun _ => .nil⟩, fun place => worker_attempt E P (retries place) .nil⟩
  have hkept : WorkerKept sure (c.own AttemptMark.place place) := (hsound.reaches h).1 place
  exact ⟨hkept.sentOnce_iff, hkept.once⟩

section Runs

instance : DecidablePred SentOnce := fun own => by
  unfold SentOnce
  infer_instance

/-- The push of notification 0 is the only job. -/
def pushWorld : World := { queuedWorld with jobs := [.sendPushNotification 0] }

def pushedInTurn (retries n : ℕ) : Config ℕ World QueueCall AppError Unit AttemptMark :=
  (attemptPool flatEnv openPush (fun _ => retries) pushWorld).schedule AttemptMark.of
    (List.replicate n 0)

/-- An accepted push is recorded where its row is there. -/
def recordsFound (_ : ℕ) (l : QueueCall) (s : AttemptSnapshot) : Bool :=
  match l with
  | .call (.notificationUpdate id _) => (s.state.notifications.find? id).isSome
  | _ => true

theorem admits_of_recordsFound (place : ℕ) (l : QueueCall) (s : AttemptSnapshot)
    (h : recordsFound place l s = true) : (attemptSetting True).admits place l s := by
  intro _
  cases l with
  | call l =>
      cases l with
      | notificationUpdate id data => exact fun _ => h
      | _ => trivial
  | _ => trivial

/-- The push is accepted and recorded, and the job is done. -/
theorem pushSentOnce_iff_recorded :
    SentOnce ((pushedInTurn 3 7).own AttemptMark.place 0) ∧
      (pushedInTurn 3 7).state.pushes.length = 1 ∧
      ((pushedInTurn 3 7).pool 0).result? = some (.ok ()) := by
  have hok : (attemptPool flatEnv openPush (fun _ => 3) pushWorld).scheduleOk AttemptMark.of
      recordsFound (List.replicate 7 0) = true := by decide +kernel
  have hreach : Reaches (attemptSetting True) (attemptPool flatEnv openPush (fun _ => 3) pushWorld)
      (pushedInTurn 3 7) := Reaches.scheduleOk recordsFound admits_of_recordsFound hok
  refine ⟨?_, by decide +kernel, by decide +kernel⟩
  exact (pushSentOnce_iff flatEnv openPush (fun _ => 3) pushWorld True hreach 0).2 trivial

/-- The push is accepted, but the update that records it fails. -/
def unrecordedPush (retries n : ℕ) : Config ℕ World QueueCall AppError Unit AttemptMark :=
  ((pushedInTurn retries 4).drop 0).schedule AttemptMark.of (List.replicate n 0)

theorem reaches_unrecordedPush (retries n : ℕ) :
    Reaches (attemptSetting False) (attemptPool flatEnv openPush (fun _ => retries) pushWorld)
      (unrecordedPush retries n) := by
  have hadm : ∀ i l s, (attemptSetting False).admits i l s := fun _ _ _ h => h.elim
  refine Relation.ReflTransGen.trans (Reaches.schedule hadm (List.replicate 4 0) _) ?_
  exact Relation.ReflTransGen.trans (Reaches.drop fun _ h => h.elim) (Reaches.schedule hadm _ _)

/-- Nothing else fails: a retry hands the same push over again, and without a retry the row of a
push that was accepted ends as failed. -/
theorem not_sentOnce :
    Reaches (attemptSetting False) (attemptPool flatEnv openPush (fun _ => 1) pushWorld)
        (unrecordedPush 1 7) ∧
      ¬ SentOnce ((unrecordedPush 1 7).own AttemptMark.place 0) ∧
      (unrecordedPush 1 7).state.pushes.map Push.notificationId = [0, 0] ∧
      Reaches (attemptSetting False) (attemptPool flatEnv openPush (fun _ => 0) pushWorld)
        (unrecordedPush 0 3) ∧
      (unrecordedPush 0 3).state.pushes.map Push.notificationId = [0] ∧
      ((unrecordedPush 0 3).pool 0).result? = some (.ok ()) ∧
      ((unrecordedPush 0 3).state.notifications.find? 0).map Notification.status =
        some .FAILED := by
  refine ⟨reaches_unrecordedPush 1 7, by decide +kernel, by decide +kernel,
    reaches_unrecordedPush 0 3, by decide +kernel, by decide +kernel, by decide +kernel⟩

end Runs

end FifiAlert
