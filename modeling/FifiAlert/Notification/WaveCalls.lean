import FifiAlert.Notification.WaveOutcome

/-!
# The calls of a wave

Apart from the rows and the jobs of its pushes, a wave job reads, records
exclusions and emails, and sends emails. What holds of these silent calls and of
the two calls of a push holds of every call of the job.
-/

namespace FifiAlert

open Concurrency Store Js LocationService NotificationCall NotificationService
  NotificationQueueProcessor

/-- The calls that push to nobody and leave the rows of pushes alone. -/
def NotificationCall.silent : NotificationCall → Bool
  | location _ | deviceFindReachable _ | deviceFindMany _ | notificationFindUnique _
  | notificationFindMany _ _ | notificationFindDelivered _ | notificationCount _ _
  | alertFindStory _ | sightingFindMany _ | userFindUnique _ | sendHtml _ | emit _ _ => true
  | notificationCreate data => !(data.toRow 0 0).isPush
  | _ => false

/-- All calls of the process are silent. -/
abbrev Silent {α : Type} (p : NotificationProcess α) : Prop :=
  p.Confined (fun l f => f = l.effect ∧ l.silent = true) fun _ => True

section Silent

variable {α : Type} {alertId : ℕ}

theorem silent_read {l : NotificationCall} {g : World → α} (hl : id = l.effect)
    (hsilent : l.silent = true) : Silent (read l g) :=
  Process.confined_query ⟨hl, hsilent⟩ trivial

theorem silent_queryRaw (s : LocationStrategy) (rows : World → List RawRow) :
    Silent (queryRaw s rows) :=
  Process.confined_query ⟨rfl, rfl⟩ trivial

theorem silent_dateNow : Silent dateNow :=
  Process.confined_query ⟨rfl, rfl⟩ trivial

theorem silent_create {data : NotificationData} (h : (data.toRow 0 0).isPush = false) :
    Silent (create data) := by
  have hsilent : (notificationCreate data).silent = true := by
    rw [NotificationCall.silent, h, Bool.not_false]
  exact Process.confined_atomic ⟨rfl, hsilent⟩ (fun _ _ _ => trivial) trivial

theorem silent_numericId (id : Ident) : Silent (numericId id) := by
  unfold numericId
  cases id.parseInt <;> trivial

theorem silent_findPostalCodeMatches (E : LocationEnv) (codes : List String) :
    Silent (findPostalCodeMatches E codes) := by
  unfold findPostalCodeMatches
  by_cases hnone : codes.isEmpty = true
  · rw [if_pos hnone]
    trivial
  · rw [if_neg hnone]
    exact (silent_queryRaw _ _).bind fun rows => trivial

theorem silent_collectMatches (E : LocationEnv) (alert : Alert) :
    Silent (collectMatches E alert) := by
  have hquery : ∀ (s : LocationStrategy) (rows : World → List RawRow)
      (k : List RawRow → List MatchResult),
      Silent (queryRaw s rows >>= fun found => (return k found : NotificationProcess _)) :=
    fun s rows k => (silent_queryRaw s rows).bind fun found => trivial
  unfold collectMatches
  apply (hquery _ _ _).bind
  intro savedZoneMatches
  apply (hquery _ _ _).bind
  intro alertZoneMatches
  apply (silent_dateNow.bind fun now => hquery _ _ _).bind
  intro freshGpsMatches
  apply (silent_dateNow.bind fun now => hquery _ _ _).bind
  intro staleGpsMatches
  apply (silent_findPostalCodeMatches E _).bind
  intro postalCodeMatches
  exact (hquery _ _ _).bind fun ipGeoMatches => trivial

theorem silent_findDevicesForAlert (E : LocationEnv) (alertId : ℕ) :
    Silent (findDevicesForAlert E alertId) := by
  have hread : Silent (Process.query (LocationCalls.alertFindUnique alertId) (.prisma .other)
      fun w : World => w.alerts.find? alertId) :=
    Process.confined_query ⟨rfl, rfl⟩ trivial
  unfold findDevicesForAlert
  apply hread.bind
  intro found
  cases found with
  | none => trivial
  | some alert =>
      dsimp only
      split
      · trivial
      split
      · trivial
      · exact (silent_collectMatches E alert).bind fun allMatches => trivial

theorem silent_trackExclusion (deviceId : ℕ) (reason : ExclusionReason) :
    Silent (trackExclusion alertId deviceId reason) :=
  (silent_create rfl).map _

theorem silent_trackMatch (m : DeviceMatch) :
    Silent (numericId m.deviceId >>= fun deviceId =>
      trackExclusion alertId deviceId .PUSH_TOKEN_MISSING) :=
  (silent_numericId _).bind fun deviceId => silent_trackExclusion deviceId _

theorem silent_recordTokenless (m : DeviceMatch) : Silent (recordTokenless alertId m) := by
  unfold recordTokenless
  split
  · exact silent_trackMatch m
  · trivial

theorem silent_recordUnreachable (m : DeviceMatch) : Silent (recordUnreachable alertId m) := by
  unfold recordUnreachable
  split
  · exact silent_trackMatch m
  · trivial

theorem silent_excludeAll (targets : List ℕ) (reason : ExclusionReason) :
    Silent (excludeAll alertId targets reason) :=
  Process.Confined.forEach fun deviceId _ => silent_trackExclusion deviceId reason

theorem silent_hasBeenNotified (userId : Ident) (channel : NotificationChannel) :
    Silent (hasBeenNotified alertId userId channel) :=
  (silent_numericId userId).bind fun _ => silent_read rfl rfl

theorem silent_isOverDailyCap (userId : Ident) (wave : NotificationConfidence) :
    Silent (isOverDailyCap userId wave) :=
  silent_dateNow.bind fun _ => (silent_numericId userId).bind fun _ => silent_read rfl rfl

theorem silent_findReachableDevices (userIds : List ℕ) :
    Silent (findReachableDevices userIds) := by
  unfold findReachableDevices
  split
  · trivial
  · exact silent_read rfl rfl

theorem silent_sendAlertEmail (userId : ℕ) :
    Silent (AlertEmailService.sendAlertEmail userId alertId) := by
  have hread : Silent (read (.userFindUnique userId) fun w => w.verifiedEmail userId) :=
    silent_read rfl rfl
  apply hread.bind
  intro email
  cases email with
  | none => trivial
  | some email =>
      have hsend : Silent (write (.sendHtml ⟨"newAlert", email, alertId⟩)) :=
        Process.confined_modify ⟨rfl, rfl⟩ trivial
      exact Process.Confined.tryCatch (hsend.map _) fun e _ => trivial

theorem silent_sendFallbackEmail (m : DeviceMatch) : Silent (sendFallbackEmail alertId m) := by
  unfold sendFallbackEmail
  cases m.userId.parseInt with
  | none => trivial
  | some userId =>
      have hopted : Silent (AlertEmailService.isOptedIn userId) := silent_read rfl rfl
      refine Process.Confined.tryCatch (T := fun _ => True) ?_ fun _ _ => trivial
      apply hopted.bind
      intro optedIn
      cases optedIn with
      | false => trivial
      | true => exact (silent_sendAlertEmail userId).map _

theorem silent_recordEmailNotification (m : DeviceMatch) (sent : Bool) :
    Silent (recordEmailNotification alertId m sent) := by
  refine Process.Confined.tryCatch (T := fun _ => True) ?_ fun _ _ => trivial
  apply silent_dateNow.bind
  intro now
  apply (silent_numericId _).bind
  intro deviceId
  exact (silent_create rfl).map _

theorem silent_emailUser (entry : Ident × DeviceMatch) : Silent (emailUser alertId entry) := by
  apply (silent_hasBeenNotified _ _).bind
  intro notified
  cases notified with
  | true => trivial
  | false =>
      apply (silent_sendFallbackEmail _).bind
      intro sent
      cases sent with
      | none => trivial
      | some sent => exact silent_recordEmailNotification _ sent

theorem Silent.confined {α : Type} {p : NotificationProcess α} (hp : Silent p)
    {P : NotificationCall → (World → World) → Prop}
    (hsilent : ∀ l, l.silent = true → P l l.effect) : p.Confined P fun _ => True :=
  hp.mono (fun l _ h => h.1 ▸ hsilent l h.2) fun _ => id

end Silent

/-- The process is made of quiet parts and of pushes that are queued: a row, then its job. -/
inductive Queues (quiet : NotificationCall → Prop) (ok : NotificationData → Prop) :
    {α : Type} → NotificationProcess α → Prop where
  | quiet {α : Type} {p : NotificationProcess α}
      (hp : p.Confined (fun l f => f = l.effect ∧ quiet l) fun _ => True) : Queues quiet ok p
  | push {data : NotificationData} (hdata : ok data) :
      Queues quiet ok (create data >>= fun id => write (.queueAdd (.sendPushNotification id)))
  | bind {α β : Type} {p : NotificationProcess α} {k : α → NotificationProcess β}
      (hp : Queues quiet ok p) (hk : ∀ a, Queues quiet ok (k a)) : Queues quiet ok (p >>= k)

section Queues

variable {quiet : NotificationCall → Prop} {ok : NotificationData → Prop} {alertId : ℕ}

theorem Queues.silent {α : Type} {p : NotificationProcess α} (hp : Silent p)
    (hquiet : ∀ l, l.silent = true → quiet l) : Queues quiet ok p :=
  .quiet (hp.mono (fun l _ h => ⟨h.1, hquiet l h.2⟩) fun _ => id)

theorem Queues.forEach {δ : Type*} {xs : List δ} {body : δ → NotificationProcess Unit}
    (hbody : ∀ x, Queues quiet ok (body x)) : Queues quiet ok (Process.forEach xs body) := by
  induction xs with
  | nil => exact .quiet trivial
  | cons x xs ih => exact .bind (hbody x) fun _ => ih

theorem Queues.mono {quiet' : NotificationCall → Prop} {α : Type} {p : NotificationProcess α}
    (hp : Queues quiet ok p) (hquiet : ∀ l, quiet l → quiet' l) : Queues quiet' ok p := by
  induction hp with
  | quiet hp => exact .quiet (hp.mono (fun l _ h => ⟨h.1, hquiet l h.2⟩) fun _ => id)
  | push hdata => exact .push hdata
  | bind _ _ ihp ihk => exact .bind ihp ihk

/-- Every call of the process is quiet or belongs to a push. -/
theorem Queues.confined {α : Type} {p : NotificationProcess α} (hp : Queues quiet ok p)
    {P : NotificationCall → (World → World) → Prop} (hquiet : ∀ l, quiet l → P l l.effect)
    (hcreate : ∀ data, ok data → P (.notificationCreate data) (notificationCreate data).effect)
    (hadd : ∀ id, P (.queueAdd (.sendPushNotification id))
      (queueAdd (.sendPushNotification id)).effect) :
    p.Confined P fun _ => True := by
  induction hp with
  | quiet hp => exact hp.mono (fun l _ h => h.1 ▸ hquiet l h.2) fun _ => id
  | @push data hdata =>
      have hrow : (create data).Confined P fun _ => True :=
        Process.confined_atomic (hcreate data hdata) (fun _ _ _ => trivial) trivial
      exact hrow.bind fun id => Process.confined_modify (hadd id) trivial
  | bind _ _ ihp ihk => exact ihp.bind ihk

/-- A wave queues the rows of its pushes. -/
theorem processAlertNotifications_queues (E : NotificationEnv)
    (wave? : Option NotificationConfidence) :
    Queues (fun l => l.silent = true) (fun data => ∃ m deviceId, data = pushData alertId m deviceId)
      (processAlertNotifications E alertId wave?) := by
  have htargets : ∀ wave inQuietHours targets userId m,
      Queues (fun l => l.silent = true)
        (fun data => ∃ m deviceId, data = pushData alertId m deviceId)
        (pushTargets alertId wave inQuietHours targets userId m) := by
    intro wave inQuietHours targets userId m
    unfold pushTargets
    split
    · exact .quiet (silent_excludeAll _ _)
    apply Queues.bind (.quiet (silent_hasBeenNotified _ _))
    intro notified
    cases notified with
    | true => exact .quiet (silent_excludeAll _ _)
    | false =>
        apply Queues.bind (.quiet (silent_isOverDailyCap _ _))
        intro capped
        cases capped with
        | true => exact .quiet (silent_excludeAll _ _)
        | false => exact .forEach fun deviceId => .push ⟨m, deviceId, rfl⟩
  have huser : ∀ wave inQuietHours devices entry,
      Queues (fun l => l.silent = true)
        (fun data => ∃ m deviceId, data = pushData alertId m deviceId)
        (pushUser alertId wave inQuietHours devices entry) := by
    intro wave inQuietHours devices entry
    unfold pushUser
    dsimp only
    split
    · exact .quiet (silent_recordUnreachable _)
    · exact htargets _ _ _ _ _
  have hread : Silent (read (.location (.alertFindUnique alertId))
      fun w => w.alerts.find? alertId) :=
    silent_read rfl rfl
  apply Queues.bind (.quiet hread)
  intro found
  cases found with
  | none => exact .quiet trivial
  | some alert =>
      dsimp only
      split
      · exact .quiet trivial
      apply Queues.bind (.quiet (silent_findDevicesForAlert _ _))
      intro allMatches
      apply Queues.bind (.quiet silent_dateNow)
      intro now
      apply Queues.bind (.quiet (silent_findReachableDevices _))
      intro devices
      apply Queues.bind (.forEach fun m => .quiet (silent_recordTokenless m))
      intro _
      apply Queues.bind (.forEach fun entry => huser _ _ _ entry)
      intro _
      split
      · exact .forEach fun entry => .quiet (silent_emailUser entry)
      · exact .quiet trivial

end Queues

end FifiAlert
