import FifiAlert.Concurrency.Protocol
import FifiAlert.Notification.PushQueue

/-!
# The ledger of the pushes

What the workers may do with the rows, the jobs and the pushes, and the invariant that
they keep for one alert and one device: a later push row was only created when the job
of every earlier one was over without an accepted push, so no second push is accepted.
-/

namespace FifiAlert

open Concurrency Store NotificationCall NotificationQueueProcessor

section Rows

variable {w w' w'' : World} {alertId deviceId id : ℕ}

theorem RowsStay.refl (w : World) : RowsStay w w :=
  ⟨Nat.le_refl _, fun _ n h => ⟨n, h, rfl, rfl, rfl, rfl⟩, fun _ _ h => h, fun _ _ h => h⟩

theorem RowsStay.of_eq (h : w'.notifications = w.notifications)
    (howner : ∀ d u, w.deviceOwner d = some u → w'.deviceOwner d = some u) : RowsStay w w' := by
  constructor
  · rw [h]
  · intro id n hrow
    exact ⟨n, h ▸ hrow, rfl, rfl, rfl, rfl⟩
  · intro id _ hnone
    rw [h]
    exact hnone
  · exact howner

theorem RowsStay.hasPushRow (h : RowsStay w w') (hrow : w.hasPushRow alertId deviceId id) :
    w'.hasPushRow alertId deviceId id := by
  obtain ⟨n, hn, halert, hdevice, hstory⟩ := hrow
  obtain ⟨n', hn', halert', hdevice', hstory', -⟩ := h.row id n hn
  exact ⟨n', hn', halert'.trans halert, hdevice'.trans hdevice, hstory'.trans hstory⟩

theorem RowsStay.hasPushRow_iff (h : RowsStay w w') (hid : id < w.notifications.next) :
    w'.hasPushRow alertId deviceId id ↔ w.hasPushRow alertId deviceId id := by
  constructor
  · rintro ⟨n', hn', halert, hdevice, hstory⟩
    cases hn : w.notifications.find? id with
    | none =>
        rw [h.old id hid hn] at hn'
        cases hn'
    | some n =>
        obtain ⟨n'', hn'', halert', hdevice', hstory', -⟩ := h.row id n hn
        rw [hn'] at hn''
        cases hn''
        exact ⟨n, hn, halert'.symm.trans halert, hdevice'.symm.trans hdevice,
          hstory'.symm.trans hstory⟩
  · exact h.hasPushRow

/-- A creation adds a row under the next id. -/
theorem find?_createNotification (w : World) (data : NotificationData) (id : ℕ) :
    (w.createNotification data).notifications.find? id =
      if id = w.notifications.next then some (data.toRow w.now w.notifications.next)
      else w.notifications.find? id :=
  Serial.find?_create w.notifications (data.toRow w.now) (data.toRow_id w.now) id

theorem rowsStay_createNotification (w : World) (data : NotificationData) :
    RowsStay w (w.createNotification data) := by
  constructor
  · exact Nat.le_succ _
  · intro id n hn
    have hne : id ≠ w.notifications.next := Nat.ne_of_lt (Serial.lt_next_of_find? hn)
    refine ⟨n, ?_, rfl, rfl, rfl, rfl⟩
    rw [find?_createNotification, if_neg hne, hn]
  · intro id hid hnone
    rw [find?_createNotification, if_neg (Nat.ne_of_lt hid), hnone]
  · exact fun _ _ h => h

theorem notFailed_createNotification (data : NotificationData) (hid : id < w.notifications.next)
    (h : w.notFailed id) : (w.createNotification data).notFailed id := by
  intro n hn
  rw [find?_createNotification, if_neg (Nat.ne_of_lt hid)] at hn
  exact h n hn

theorem find?_updateNotification (w : World) (id' : ℕ) (data : NotificationUpdate) (id : ℕ) :
    (w.updateNotification id' data).notifications.find? id =
      (w.notifications.find? id).map fun n => if n.id = id' then n.update data else n := by
  have hfind : (w.updateNotification id' data).notifications.find? id = _ :=
    Table.find?_updateMany w.notifications.toTable (fun n => n.id = id') (fun n => n.update data)
      (fun _ => rfl) id
  rw [hfind]
  simp only [decide_eq_true_eq]

theorem rowsStay_updateNotification (w : World) (id' : ℕ) (data : NotificationUpdate) :
    RowsStay w (w.updateNotification id' data) := by
  constructor
  · exact Nat.le_refl _
  · intro id n hn
    refine ⟨if n.id = id' then n.update data else n, ?_, ?_⟩
    · rw [find?_updateNotification, hn, Option.map_some]
    · split <;> exact ⟨rfl, rfl, rfl, rfl⟩
  · intro id _ hnone
    rw [find?_updateNotification, hnone, Option.map_none]
  · exact fun _ _ h => h

theorem notFailed_updateNotification {id' : ℕ} {data : NotificationUpdate}
    (hdata : id = id' → data.status ≠ .FAILED) (h : w.notFailed id) :
    (w.updateNotification id' data).notFailed id := by
  intro n' hn'
  rw [find?_updateNotification, Option.map_eq_some_iff] at hn'
  obtain ⟨n, hn, rfl⟩ := hn'
  split
  · rename_i hid
    exact hdata ((Table.key_of_find? hn).symm.trans hid)
  · exact h n hn

/-- A device keeps its owner when its token is cleared. -/
theorem deviceOwner_clearToken (w : World) (id : ℕ) (date : Time) (d : ℕ) :
    ((deviceClearToken id date).effect w).deviceOwner d = w.deviceOwner d := by
  have hfind : ((deviceClearToken id date).effect w).devices.find? d = _ :=
    Table.find?_updateMany w.devices (fun d => d.id = id) (fun d => d.clearToken date)
      (fun _ => rfl) d
  unfold World.deviceOwner
  rw [hfind]
  cases w.devices.find? d with
  | none => rfl
  | some device =>
      rw [Option.map_some, Option.map_some, Option.map_some]
      split <;> rfl

/-- No call takes a row or a device away or changes whose it is. -/
theorem rowsStay_effect (l : NotificationCall) (w : World) : RowsStay w (l.effect w) := by
  cases l with
  | notificationCreate data =>
      have heffect : (notificationCreate data).effect w =
        if w.takesNotification data then w.createNotification data else w := rfl
      rw [heffect]
      split
      · exact rowsStay_createNotification w data
      · exact .refl w
  | notificationUpdate id data => exact rowsStay_updateNotification w id data
  | sendNotification push =>
      have heffect : (NotificationCall.sendNotification push).effect w =
        if w.pushTaken push then { w with pushes := w.pushes ++ [push] } else w := rfl
      rw [heffect]
      split <;> exact .of_eq rfl fun _ _ h => h
  | deviceClearToken id date =>
      exact .of_eq rfl fun d u h => (deviceOwner_clearToken w id date d).trans h
  | _ => exact .of_eq rfl fun _ _ h => h

/-- A job added that is not one of a push leaves the places of the push jobs. -/
theorem pushJobAt_append_iff {added : List Job} {place : ℕ} (hjobs : w'.jobs = w.jobs ++ added)
    (hadded : Job.sendPushNotification id ∉ added) :
    w'.pushJobAt place id ↔ w.pushJobAt place id := by
  unfold World.pushJobAt
  rw [hjobs]
  constructor
  · intro h
    rw [List.getElem?_append] at h
    split at h
    · exact h
    · exact absurd (List.mem_of_getElem? h) hadded
  · intro h
    have hlt := (List.getElem?_eq_some_iff.1 h).1
    rw [List.getElem?_append_left hlt]
    exact h

theorem pushJobAt_snoc_iff {job : Job} {place : ℕ} (hjobs : w'.jobs = w.jobs ++ [job]) :
    w'.pushJobAt place id ↔
      w.pushJobAt place id ∨ place = w.jobs.length ∧ job = .sendPushNotification id := by
  unfold World.pushJobAt
  rw [hjobs, List.getElem?_append]
  by_cases hlt : place < w.jobs.length
  · rw [if_pos hlt]
    constructor
    · exact .inl
    · rintro (h | ⟨rfl, -⟩)
      · exact h
      · exact absurd hlt (Nat.lt_irrefl _)
  · rw [if_neg hlt, List.getElem?_eq_none (Nat.le_of_not_lt hlt)]
    constructor
    · intro h
      have hzero := (List.getElem?_eq_some_iff.1 h).1
      rw [List.length_singleton, Nat.lt_one_iff] at hzero
      rw [hzero] at h
      exact .inr ⟨by omega, Option.some.inj h⟩
    · rintro (h | ⟨rfl, rfl⟩)
      · cases h
      · rw [Nat.sub_self]
        rfl

theorem pushJobAt_inj {place id' : ℕ} (h : w.pushJobAt place id) (h' : w.pushJobAt place id') :
    id = id' := by
  unfold World.pushJobAt at h h'
  rw [h] at h'
  exact Job.sendPushNotification.inj (Option.some.inj h')

end Rows

/-- The provider accepted a push for the missing pet. -/
def QueueMark.isMissingPet (alertId deviceId : ℕ) : QueueMark → Bool
  | accepted _ push => push.isMissingPet alertId deviceId
  | _ => false

/-- What holds of the rows, the jobs and the pushes for an alert and a device. -/
structure PushLedger (alertId deviceId : ℕ) (s : QueueSnapshot) : Prop where
  drawn : ∀ i id, .created i id ∈ s.marks → id < s.state.notifications.next
  creator : ∀ i j id, .created i id ∈ s.marks → .created j id ∈ s.marks → i = j
  kind : ∀ i id n, .created i id ∈ s.marks → s.state.notifications.find? id = some n →
    n.isPush = true
  place : ∀ i j id, s.state.pushJobAt i id → s.state.pushJobAt j id → i = j
  queued : ∀ i id, s.state.pushJobAt i id → id < s.state.notifications.next ∧
    ((∃ j, .created j id ∈ s.marks) ∨ ¬ s.state.hasPushRow alertId deviceId id)
  accepted : ∀ i push, .accepted i push ∈ s.marks → s.state.pushJobAt i push.notificationId ∧
    (push.isMissingPet alertId deviceId = true →
      s.state.hasPushRow alertId deviceId push.notificationId)
  settled : ∀ i push, .finished i ∈ s.marks → .accepted i push ∈ s.marks →
    s.state.notFailed push.notificationId
  earlier : ∀ i j id id', .created i id ∈ s.marks → .created j id' ∈ s.marks →
    s.state.hasPushRow alertId deviceId id → s.state.hasPushRow alertId deviceId id' → id < id' →
      ∃ k, s.state.pushJobAt k id ∧ .finished k ∈ s.marks ∧ ∀ push, .accepted k push ∉ s.marks
  counted : s.state.pushes.countP (fun p => p.isMissingPet alertId deviceId) =
    s.marks.countP (QueueMark.isMissingPet alertId deviceId)
  once : s.marks.countP (QueueMark.isMissingPet alertId deviceId) ≤ 1

namespace PushLedger

variable {alertId deviceId : ℕ} {w w' : World} {m : List QueueMark}

/-- A step that leaves the push jobs and the pushes alone, and fails no settled row. -/
theorem keeps (h : PushLedger alertId deviceId ⟨w, m⟩) (hrows : RowsStay w w')
    (hjobs : ∀ i id, w'.pushJobAt i id ↔ w.pushJobAt i id) (hpushes : w'.pushes = w.pushes)
    (hsettled : ∀ i push, .finished i ∈ m → .accepted i push ∈ m →
      w'.notFailed push.notificationId) : PushLedger alertId deviceId ⟨w', m⟩ where
  drawn := fun i id hc => Nat.lt_of_lt_of_le (h.drawn i id hc) hrows.next
  creator := h.creator
  kind := by
    intro i id n' hc hn'
    cases hn : w.notifications.find? id with
    | none =>
        rw [hrows.old id (h.drawn i id hc) hn] at hn'
        cases hn'
    | some n =>
        obtain ⟨n'', hn'', -, -, -, hpush⟩ := hrows.row id n hn
        rw [hn'] at hn''
        cases hn''
        exact hpush.trans (h.kind i id n hc hn)
  place := fun i j id hi hj => h.place i j id ((hjobs i id).1 hi) ((hjobs j id).1 hj)
  queued := by
    intro i id hi
    obtain ⟨hlt, hsource⟩ := h.queued i id ((hjobs i id).1 hi)
    exact ⟨Nat.lt_of_lt_of_le hlt hrows.next,
      hsource.imp_right fun hno hrow => hno ((hrows.hasPushRow_iff hlt).1 hrow)⟩
  accepted := by
    intro i push ha
    obtain ⟨hi, hrow⟩ := h.accepted i push ha
    exact ⟨(hjobs i _).2 hi, fun hmissing => hrows.hasPushRow (hrow hmissing)⟩
  settled := hsettled
  earlier := by
    intro i j id id' hc hc' hrow hrow' hlt
    obtain ⟨k, hk, hdone, hnone⟩ := h.earlier i j id id' hc hc'
      ((hrows.hasPushRow_iff (h.drawn i id hc)).1 hrow)
      ((hrows.hasPushRow_iff (h.drawn j id' hc')).1 hrow') hlt
    exact ⟨k, (hjobs k id).2 hk, hdone, hnone⟩
  counted := by
    dsimp only
    rw [hpushes]
    exact h.counted
  once := h.once

/-- A step that touches neither rows nor jobs nor pushes. -/
theorem of_eq (h : PushLedger alertId deviceId ⟨w, m⟩) (hstay : RowsStay w w')
    (hrows : w'.notifications = w.notifications) (hjobs : w'.jobs = w.jobs)
    (hpushes : w'.pushes = w.pushes) : PushLedger alertId deviceId ⟨w', m⟩ := by
  refine h.keeps hstay (fun i id => ?_) hpushes fun i push hf ha => ?_
  · unfold World.pushJobAt
    rw [hjobs]
  · have hnot : w.notFailed push.notificationId := h.settled i push hf ha
    unfold World.notFailed at hnot ⊢
    rw [hrows]
    exact hnot

/-- What the other services do keeps the ledger. -/
theorem env (h : PushLedger alertId deviceId ⟨w, m⟩) (henv : QueueKept w w') :
    PushLedger alertId deviceId ⟨w', m⟩ := by
  obtain ⟨added, hjobs, hadded⟩ := henv.jobs
  refine h.keeps henv.rows (fun i id => pushJobAt_append_iff hjobs (hadded id)) henv.pushes ?_
  intro i push hf ha
  have hlt := (h.queued i _ (h.accepted i push ha).1).1
  exact henv.failed _ hlt (h.settled i push hf ha)

/-- A row that is no push. -/
theorem create (h : PushLedger alertId deviceId ⟨w, m⟩) (data : NotificationData) :
    PushLedger alertId deviceId ⟨w.createNotification data, m⟩ := by
  refine h.keeps (rowsStay_createNotification w data) (fun _ _ => Iff.rfl) rfl ?_
  intro i push hf ha
  have hlt := (h.queued i _ (h.accepted i push ha).1).1
  exact notFailed_createNotification data hlt (h.settled i push hf ha)

/-- The row of a push, created where the job of every earlier one is over without an accepted
push. -/
theorem createPush (h : PushLedger alertId deviceId ⟨w, m⟩) {data : NotificationData} {place : ℕ}
    (hpush : (data.toRow 0 0).isPush = true)
    (hearlier : (data.toRow 0 0).isStory = false → data.alert_id = alertId →
      data.device_id = deviceId → ∀ i id, .created i id ∈ m → w.hasPushRow alertId deviceId id →
        ∃ k, w.pushJobAt k id ∧ .finished k ∈ m ∧ ∀ push, .accepted k push ∉ m) :
    PushLedger alertId deviceId
      ⟨w.createNotification data, .created place w.notifications.next :: m⟩ := by
  have hkept := h.create data
  have hstay := rowsStay_createNotification w data
  constructor
  · intro i id hc
    rcases List.mem_cons.1 hc with heq | hc
    · cases heq
      exact Nat.lt_succ_self _
    · exact hkept.drawn i id hc
  · intro i j id hi hj
    rcases List.mem_cons.1 hi with heq | hi <;> rcases List.mem_cons.1 hj with heq' | hj
    · cases heq
      cases heq'
      rfl
    · cases heq
      exact absurd (h.drawn j _ hj) (Nat.lt_irrefl _)
    · cases heq'
      exact absurd (h.drawn i _ hi) (Nat.lt_irrefl _)
    · exact h.creator i j id hi hj
  · intro i id n hc hn
    rcases List.mem_cons.1 hc with heq | hc
    · cases heq
      rw [find?_createNotification, if_pos rfl] at hn
      cases hn
      exact hpush
    · exact hkept.kind i id n hc hn
  · exact hkept.place
  · intro i id hi
    obtain ⟨hlt, hsource⟩ := hkept.queued i id hi
    exact ⟨hlt, hsource.imp_left fun ⟨j, hj⟩ => ⟨j, List.mem_cons_of_mem _ hj⟩⟩
  · intro i push ha
    exact hkept.accepted i push ((List.mem_cons.1 ha).resolve_left nofun)
  · intro i push hf ha
    exact hkept.settled i push ((List.mem_cons.1 hf).resolve_left nofun)
      ((List.mem_cons.1 ha).resolve_left nofun)
  · intro i j id id' hc hc' hrow hrow' hlt
    have hold : .created i id ∈ m := by
      refine (List.mem_cons.1 hc).resolve_left fun heq => ?_
      cases heq
      rcases List.mem_cons.1 hc' with heq' | hc'
      · cases heq'
        exact Nat.lt_irrefl _ hlt
      · exact Nat.lt_asymm hlt (h.drawn j id' hc')
    rcases List.mem_cons.1 hc' with heq | hc'
    · cases heq
      have hrow := (hstay.hasPushRow_iff (h.drawn i id hold)).1 hrow
      obtain ⟨n, hn, halert, hdevice, hstory⟩ := hrow'
      rw [find?_createNotification, if_pos rfl] at hn
      cases hn
      have halert : data.alert_id = alertId := halert
      have hdevice : data.device_id = deviceId := hdevice
      obtain ⟨k, hk, hdone, hnone⟩ := hearlier hstory halert hdevice i id hold hrow
      exact ⟨k, hk, List.mem_cons_of_mem _ hdone, fun push ha =>
        hnone push ((List.mem_cons.1 ha).resolve_left nofun)⟩
    · obtain ⟨k, hk, hdone, hnone⟩ := hkept.earlier i j id id' hold hc' hrow hrow' hlt
      exact ⟨k, hk, List.mem_cons_of_mem _ hdone, fun push ha =>
        hnone push ((List.mem_cons.1 ha).resolve_left nofun)⟩
  · rw [List.countP_cons_of_neg Bool.false_ne_true]
    exact hkept.counted
  · rw [List.countP_cons_of_neg Bool.false_ne_true]
    exact h.once

/-- A push job is added by the creator of its row, once. -/
theorem addJob (h : PushLedger alertId deviceId ⟨w, m⟩) {job : Job} {place : ℕ}
    (hper : ∀ id, job = .sendPushNotification id → .created place id ∈ m ∧
      ∀ i, ¬ w.pushJobAt i id) :
    PushLedger alertId deviceId ⟨{ w with jobs := w.jobs ++ [job] }, m⟩ := by
  have hat : ∀ i id, ({ w with jobs := w.jobs ++ [job] } : World).pushJobAt i id ↔
      w.pushJobAt i id ∨ i = w.jobs.length ∧ job = .sendPushNotification id :=
    fun i id => pushJobAt_snoc_iff rfl
  constructor
  · exact h.drawn
  · exact h.creator
  · exact h.kind
  · intro i j id hi hj
    rcases (hat i id).1 hi with hi | ⟨rfl, hjob⟩ <;> rcases (hat j id).1 hj with hj | ⟨rfl, hjob'⟩
    · exact h.place i j id hi hj
    · exact absurd hi ((hper id hjob').2 i)
    · exact absurd hj ((hper id hjob).2 j)
    · rfl
  · intro i id hi
    rcases (hat i id).1 hi with hi | ⟨-, hjob⟩
    · exact h.queued i id hi
    · have hc := (hper id hjob).1
      exact ⟨h.drawn place id hc, .inl ⟨place, hc⟩⟩
  · intro i push ha
    obtain ⟨hi, hrow⟩ := h.accepted i push ha
    exact ⟨(hat i _).2 (.inl hi), hrow⟩
  · exact h.settled
  · intro i j id id' hc hc' hrow hrow' hlt
    obtain ⟨k, hk, hrest⟩ := h.earlier i j id id' hc hc' hrow hrow' hlt
    exact ⟨k, (hat k id).2 (.inl hk), hrest⟩
  · exact h.counted
  · exact h.once

/-- A mark that creates no row, with what is to be shown of the pushes and the workers. -/
theorem noted (h : PushLedger alertId deviceId ⟨w, m⟩) {x : QueueMark} (pushes : List Push)
    (hcreates : ∀ i id, x ≠ .created i id)
    (haccepted : ∀ i push, x = .accepted i push → w.pushJobAt i push.notificationId ∧
      (push.isMissingPet alertId deviceId = true →
        w.hasPushRow alertId deviceId push.notificationId))
    (hopen : ∀ i push, x = .accepted i push → .finished i ∉ m)
    (hsettled : ∀ i push, .finished i ∈ x :: m → .accepted i push ∈ x :: m →
      w.notFailed push.notificationId)
    (hcounted : pushes.countP (fun p => p.isMissingPet alertId deviceId) =
      (x :: m).countP (QueueMark.isMissingPet alertId deviceId))
    (honce : (x :: m).countP (QueueMark.isMissingPet alertId deviceId) ≤ 1) :
    PushLedger alertId deviceId ⟨{ w with pushes }, x :: m⟩ := by
  have hold : ∀ i id, .created i id ∈ x :: m → .created i id ∈ m :=
    fun i id hc => (List.mem_cons.1 hc).resolve_left fun heq => hcreates i id heq.symm
  constructor
  · exact fun i id hc => h.drawn i id (hold i id hc)
  · exact fun i j id hi hj => h.creator i j id (hold i id hi) (hold j id hj)
  · exact fun i id n hc hn => h.kind i id n (hold i id hc) hn
  · exact h.place
  · intro i id hi
    obtain ⟨hlt, hsource⟩ := h.queued i id hi
    exact ⟨hlt, hsource.imp_left fun ⟨j, hj⟩ => ⟨j, List.mem_cons_of_mem _ hj⟩⟩
  · intro i push ha
    rcases List.mem_cons.1 ha with heq | ha
    · exact haccepted i push heq.symm
    · exact h.accepted i push ha
  · exact hsettled
  · intro i j id id' hc hc' hrow hrow' hlt
    obtain ⟨k, hk, hdone, hnone⟩ := h.earlier i j id id' (hold i id hc) (hold j id' hc') hrow hrow'
      hlt
    refine ⟨k, hk, List.mem_cons_of_mem _ hdone, fun push ha => ?_⟩
    rcases List.mem_cons.1 ha with heq | ha
    · exact hopen k push heq.symm hdone
    · exact hnone push ha
  · exact hcounted
  · exact honce

/-- A worker asks. -/
theorem ask (h : PushLedger alertId deviceId ⟨w, m⟩) (place : ℕ) :
    PushLedger alertId deviceId ⟨w, .asked place :: m⟩ := by
  refine h.noted w.pushes nofun nofun nofun ?_ ?_ ?_
  · intro i push hf ha
    exact h.settled i push ((List.mem_cons.1 hf).resolve_left nofun)
      ((List.mem_cons.1 ha).resolve_left nofun)
  · rw [List.countP_cons_of_neg Bool.false_ne_true]
    exact h.counted
  · rw [List.countP_cons_of_neg Bool.false_ne_true]
    exact h.once

/-- A worker finishes when the row of its accepted push does not count as failed. -/
theorem finish (h : PushLedger alertId deviceId ⟨w, m⟩) {place : ℕ}
    (hper : ∀ push, .accepted place push ∈ m → w.notFailed push.notificationId) :
    PushLedger alertId deviceId ⟨w, .finished place :: m⟩ := by
  refine h.noted w.pushes nofun nofun nofun ?_ ?_ ?_
  · intro i push hf ha
    have ha := (List.mem_cons.1 ha).resolve_left nofun
    rcases List.mem_cons.1 hf with heq | hf
    · cases heq
      exact hper push ha
    · exact h.settled i push hf ha
  · rw [List.countP_cons_of_neg Bool.false_ne_true]
    exact h.counted
  · rw [List.countP_cons_of_neg Bool.false_ne_true]
    exact h.once

/-- No push was accepted before, when a worker that has not finished hands over its first. -/
theorem none_accepted (h : PushLedger alertId deviceId ⟨w, m⟩) {place id : ℕ}
    (hjob : w.pushJobAt place id) (hrow : w.hasPushRow alertId deviceId id)
    (hfirst : ∀ push, .accepted place push ∉ m) (hopen : .finished place ∉ m) :
    m.countP (QueueMark.isMissingPet alertId deviceId) = 0 := by
  have hcreated : ∀ i id, w.pushJobAt i id → w.hasPushRow alertId deviceId id →
      ∃ j, .created j id ∈ m :=
    fun i id hi hrow => (h.queued i id hi).2.resolve_right fun hno => hno hrow
  rw [List.countP_eq_zero]
  intro mark hmark hmissing
  cases mark with
  | asked i => cases hmissing
  | created i id => cases hmissing
  | finished i => cases hmissing
  | accepted i push =>
      obtain ⟨hi, hpushRow⟩ := h.accepted i push hmark
      have hrow' := hpushRow hmissing
      obtain ⟨j, hj⟩ := hcreated place id hjob hrow
      obtain ⟨j', hj'⟩ := hcreated i push.notificationId hi hrow'
      rcases Nat.lt_trichotomy id push.notificationId with hlt | heq | hgt
      · obtain ⟨k, hk, hdone, -⟩ := h.earlier j j' _ _ hj hj' hrow hrow' hlt
        rw [h.place k place id hk hjob] at hdone
        exact hopen hdone
      · rw [← heq] at hi
        rw [h.place i place id hi hjob] at hmark
        exact hfirst push hmark
      · obtain ⟨k, hk, -, hnone⟩ := h.earlier j' j _ _ hj' hj hrow' hrow hgt
        rw [h.place k i _ hk hi] at hnone
        exact hnone push hmark

/-- A provider accepts the first push of a worker. -/
theorem accept (h : PushLedger alertId deviceId ⟨w, m⟩) {place : ℕ} {push : Push}
    (hjob : w.pushJobAt place push.notificationId) (hfirst : ∀ p, .accepted place p ∉ m)
    (hopen : .finished place ∉ m)
    (hrow : push.isMissingPet alertId deviceId = true →
      w.hasPushRow alertId deviceId push.notificationId) :
    PushLedger alertId deviceId
      ⟨{ w with pushes := w.pushes ++ [push] }, .accepted place push :: m⟩ := by
  refine h.noted (w.pushes ++ [push]) nofun ?_ ?_ ?_ ?_ ?_
  · rintro _ _ ⟨⟩
    exact ⟨hjob, hrow⟩
  · rintro _ _ ⟨⟩
    exact hopen
  · intro i push' hf ha
    have hf := (List.mem_cons.1 hf).resolve_left nofun
    rcases List.mem_cons.1 ha with heq | ha
    · cases heq
      exact absurd hf hopen
    · exact h.settled i push' hf ha
  · rw [List.countP_append, List.countP_cons, h.counted, List.countP_cons, List.countP_nil,
      Nat.zero_add]
    rfl
  · rw [List.countP_cons]
    cases hmissing : push.isMissingPet alertId deviceId with
    | false =>
        rw [QueueMark.isMissingPet, hmissing, if_neg Bool.false_ne_true]
        exact h.once
    | true =>
        rw [h.none_accepted hjob (hrow hmissing) hfirst hopen]
        split <;> simp

end PushLedger

/-- Of the jobs that were finished when the worker asked, none has had a push for the alert and
the device accepted. -/
def Unreached (place alertId deviceId : ℕ) (s : QueueSnapshot) : Prop :=
  ∀ k push, .finished k ∈ whenAsked place s.marks → .accepted k push ∈ s.marks →
    ¬ s.state.hasPushRow alertId deviceId push.notificationId

theorem mem_of_mem_whenAsked {place : ℕ} {marks : List QueueMark} {mark : QueueMark}
    (h : mark ∈ whenAsked place marks) : mark ∈ marks := by
  induction marks with
  | nil => cases h
  | cons m marks ih =>
      unfold whenAsked at h
      split at h
      · exact List.mem_cons_of_mem m h
      · exact List.mem_cons_of_mem m (ih h)

section Protocol

variable (alertId deviceId : ℕ)

/-- When the worker at a place may make a call: it creates the row of a push for a device that
it has found unreached, adds the jobs of the rows it created, hands over the push of its own job
once, fails its row only without an accepted push, and finishes when the row of an accepted push
does not count as failed. -/
def pushPermits (place : ℕ) : QueueCall → QueueSnapshot → Prop
  | .finish, s => ∀ push, .accepted place push ∈ s.marks → s.state.notFailed push.notificationId
  | .call (.notificationCreate data), s => (data.toRow 0 0).isPush = true →
      (data.toRow 0 0).isStory = false → data.alert_id = alertId → data.device_id = deviceId →
        Unreached place alertId deviceId s
  | .call (.queueAdd job), s => ∀ id, job = .sendPushNotification id →
      .created place id ∈ s.marks ∧ ∀ i, ¬ s.state.pushJobAt i id
  | .call (.sendNotification push), s => s.state.pushJobAt place push.notificationId ∧
      (∀ p, .accepted place p ∉ s.marks) ∧ .finished place ∉ s.marks ∧
        (push.isMissingPet alertId deviceId = true →
          s.state.hasPushRow alertId deviceId push.notificationId)
  | .call (.notificationUpdate id data), s => s.state.pushJobAt place id ∧
      (data.status = .FAILED → ∀ push, .accepted place push ∉ s.marks)
  | _, _ => True

variable {alertId deviceId}

/-- Every permitted call keeps the ledger. -/
theorem PushLedger.call {place : ℕ} {l : QueueCall} {s : QueueSnapshot}
    (h : PushLedger alertId deviceId s) (hper : pushPermits alertId deviceId place l s)
    (hadm : settledSetting.admits place l s) :
    PushLedger alertId deviceId (s.after queueMark place l l.effect) := by
  obtain ⟨w, m⟩ := s
  cases l with
  | take i => exact h
  | finish => exact h.finish hper
  | call l =>
      have hstay := rowsStay_effect l w
      cases l with
      | notificationCreate data =>
          have hfinished : EarlierFinished place data ⟨w, m⟩ := hadm.2
          have hunreached : _ → _ → _ → _ → Unreached place alertId deviceId ⟨w, m⟩ := hper
          have hafter : Snapshot.after ⟨w, m⟩ queueMark place (.call (.notificationCreate data))
              (QueueCall.call (.notificationCreate data)).effect =
            ⟨if w.takesNotification data then w.createNotification data else w,
              (if w.takesNotification data && (data.toRow 0 0).isPush then
                some (QueueMark.created place w.notifications.next) else none).toList ++ m⟩ := rfl
          rw [hafter]
          cases htakes : w.takesNotification data with
          | false => exact h
          | true =>
              cases hpush : (data.toRow 0 0).isPush with
              | false => exact h.create data
              | true =>
                  refine h.createPush hpush fun hstory halert hdevice i id hc hrow => ?_
                  obtain ⟨k, hk, hdone⟩ := hfinished hpush hstory i id hc
                    (by rw [halert, hdevice]; exact hrow)
                  refine ⟨k, hk, mem_of_mem_whenAsked hdone, fun push ha => ?_⟩
                  have hid := pushJobAt_inj (h.accepted k push ha).1 hk
                  exact hunreached hpush hstory halert hdevice k push hdone ha (hid.symm ▸ hrow)
      | notificationFindMany alertId userId => exact h.ask place
      | notificationUpdate id data =>
          refine h.keeps (rowsStay_updateNotification w id data) (fun _ _ => Iff.rfl) rfl ?_
          intro i push hf ha
          refine notFailed_updateNotification (fun heq hfailed => ?_) (h.settled i push hf ha)
          have hi := (h.accepted i push ha).1
          rw [heq] at hi
          rw [h.place i place id hi hper.1] at ha
          exact hper.2 hfailed push ha
      | queueAdd job => exact h.addJob hper
      | sendNotification push =>
          have hafter : Snapshot.after ⟨w, m⟩ queueMark place (.call (.sendNotification push))
              (QueueCall.call (.sendNotification push)).effect =
            ⟨if w.pushTaken push then { w with pushes := w.pushes ++ [push] } else w,
              (if w.pushTaken push then some (QueueMark.accepted place push)
                else none).toList ++ m⟩ := rfl
          rw [hafter]
          cases hreply : w.pushTaken push with
          | false => exact h
          | true => exact h.accept hper.1 hper.2.1 hper.2.2.1 hper.2.2.2
      | _ => exact h.of_eq hstay rfl rfl rfl

/-- The protocol of the pushes for an alert and a device. -/
def pushProtocol (alertId deviceId : ℕ) : Protocol settledSetting where
  effect := QueueCall.effect
  permits := pushPermits alertId deviceId
  inv := PushLedger alertId deviceId
  inv_call := fun h hper hadm => h.call hper hadm
  inv_env := fun henv h => h.env henv

end Protocol

end FifiAlert
