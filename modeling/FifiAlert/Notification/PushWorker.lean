import FifiAlert.Notification.PushLedger

/-!
# Workers that queue pushes

What the worker of one place knows of its job, of the rows it created and of the devices
that it found unreached stays true while the others work, because they create, add, update
and hand over on their own account only. So a wave and a success story make their calls
where these are permitted.
-/

namespace FifiAlert

open Concurrency Store Js LocationService NotificationCall NotificationQueueProcessor

/-- The worker that left a mark. -/
def QueueMark.place : QueueMark → ℕ
  | asked place => place
  | created place _ => place
  | accepted place _ => place
  | finished place => place

theorem place_of_queueMark {place : ℕ} {l : QueueCall} {w : World} {mark : QueueMark}
    (h : queueMark place l w = some mark) : mark.place = place := by
  unfold queueMark at h
  split at h
  · cases h
    rfl
  · split at h <;> cases h
    rfl
  · split at h <;> cases h
    rfl
  · cases h
    rfl
  · cases h

section Aside

variable {alertId deviceId place : ℕ}

/-- What the steps of others leave to the worker of a place. -/
structure Aside (alertId deviceId place : ℕ) (s s' : QueueSnapshot) : Prop where
  job : ∀ job, s.state.jobs[place]? = some job → s'.state.jobs[place]? = some job
  accepted : ∀ push, .accepted place push ∈ s'.marks → .accepted place push ∈ s.marks
  finished : .finished place ∈ s'.marks → .finished place ∈ s.marks
  rows : RowsStay s.state s'.state
  notFailed : ∀ id, s.state.pushJobAt place id → s.state.notFailed id → s'.state.notFailed id
  created : ∀ id, .created place id ∈ s.marks → .created place id ∈ s'.marks
  fresh : ∀ id, .created place id ∈ s.marks → (∀ i, ¬ s.state.pushJobAt i id) →
    ∀ i, ¬ s'.state.pushJobAt i id
  unreached : Unreached place alertId deviceId s → Unreached place alertId deviceId s'

theorem RowsStay.trans {w w' w'' : World} (h : RowsStay w w') (h' : RowsStay w' w'') :
    RowsStay w w'' := by
  constructor
  · exact Nat.le_trans h.next h'.next
  · intro id n hn
    obtain ⟨n', hn', halert, hdevice, hstory, hpush⟩ := h.row id n hn
    obtain ⟨n'', hn'', halert', hdevice', hstory', hpush'⟩ := h'.row id n' hn'
    exact ⟨n'', hn'', halert'.trans halert, hdevice'.trans hdevice, hstory'.trans hstory,
      hpush'.trans hpush⟩
  · intro id hid hnone
    exact h'.old id (Nat.lt_of_lt_of_le hid h.next) (h.old id hid hnone)
  · exact fun d u howner => h'.owner d u (h.owner d u howner)

theorem Aside.refl (s : QueueSnapshot) : Aside alertId deviceId place s s :=
  ⟨fun _ h => h, fun _ h => h, id, .refl _, fun _ _ h => h, fun _ h => h, fun _ _ h => h, id⟩

theorem Aside.trans {s s' s'' : QueueSnapshot} (h : Aside alertId deviceId place s s')
    (h' : Aside alertId deviceId place s' s'') : Aside alertId deviceId place s s'' where
  job := fun job hj => h'.job job (h.job job hj)
  accepted := fun push ha => h.accepted push (h'.accepted push ha)
  finished := fun hf => h.finished (h'.finished hf)
  rows := h.rows.trans h'.rows
  notFailed := fun id hj hn => h'.notFailed id (h.job _ hj) (h.notFailed id hj hn)
  created := fun id hc => h'.created id (h.created id hc)
  fresh := fun id hc hn => h'.fresh id (h.created id hc) (h.fresh id hc hn)
  unreached := fun hu => h'.unreached (h.unreached hu)

theorem effect_create (data : NotificationData) (w : World) :
    (notificationCreate data).effect w =
      if w.takesNotification data then w.createNotification data else w := rfl

theorem effect_send (push : Push) (w : World) :
    (NotificationCall.sendNotification push).effect w =
      if w.pushTaken push then { w with pushes := w.pushes ++ [push] } else w := rfl

theorem queueMark_create (place : ℕ) (data : NotificationData) (w : World) :
    queueMark place (.call (.notificationCreate data)) w =
      if w.takesNotification data && (data.toRow 0 0).isPush then
        some (.created place w.notifications.next) else none := rfl

/-- Jobs are only added at the end. -/
theorem jobs_prefix_effect (l : NotificationCall) (w : World) : w.jobs <+: (l.effect w).jobs := by
  cases l with
  | notificationCreate data =>
      rw [effect_create]
      split <;> exact List.prefix_refl _
  | sendNotification push =>
      rw [effect_send]
      split <;> exact List.prefix_refl _
  | queueAdd job => exact List.prefix_append _ _
  | _ => exact List.prefix_refl _

theorem job_of_grown {w w' : World} (h : w.jobs <+: w'.jobs) {job : Job}
    (hjob : w.jobs[place]? = some job) : w'.jobs[place]? = some job := by
  obtain ⟨added, heq⟩ := h
  rw [← heq, List.getElem?_append_left (List.getElem?_eq_some_iff.1 hjob).1]
  exact hjob

/-- Another worker does not fail the row of this one. -/
theorem notFailed_of_call {j id : ℕ} {l : NotificationCall} {s : QueueSnapshot}
    (hinv : PushLedger alertId deviceId s) (hper : pushPermits alertId deviceId j (.call l) s)
    (hjob : s.state.pushJobAt place id) (hne : j ≠ place) (h : s.state.notFailed id) :
    (l.effect s.state).notFailed id := by
  cases l with
  | notificationCreate data =>
      rw [effect_create]
      split
      · exact notFailed_createNotification data (hinv.queued place id hjob).1 h
      · exact h
  | notificationUpdate id' data =>
      refine notFailed_updateNotification (fun heq => ?_) h
      have hj : s.state.pushJobAt j id := heq ▸ hper.1
      exact absurd (hinv.place j place id hj hjob) hne
  | sendNotification push =>
      rw [effect_send]
      split <;> exact h
  | _ => exact h

/-- Another worker adds no job for a row that this one created. -/
theorem fresh_of_call {j id : ℕ} {l : NotificationCall} {s : QueueSnapshot}
    (hinv : PushLedger alertId deviceId s) (hper : pushPermits alertId deviceId j (.call l) s)
    (hcreated : .created place id ∈ s.marks) (hne : j ≠ place)
    (h : ∀ i, ¬ s.state.pushJobAt i id) : ∀ i, ¬ (l.effect s.state).pushJobAt i id := by
  cases l with
  | queueAdd job =>
      intro i hi
      rcases (pushJobAt_snoc_iff rfl).1 hi with hi | ⟨-, hjob⟩
      · exact h i hi
      · exact hne (hinv.creator j place id (hper id hjob).1 hcreated)
  | notificationCreate data =>
      rw [effect_create]
      split <;> exact h
  | sendNotification push =>
      rw [effect_send]
      split <;> exact h
  | _ => exact h

theorem rowsStay_queueCall (l : QueueCall) (w : World) : RowsStay w (l.effect w) := by
  cases l with
  | call l => exact rowsStay_effect l w
  | _ => exact .refl w

theorem whenAsked_append {new : Option QueueMark} {marks : List QueueMark}
    (hnew : new ≠ some (.asked place)) :
    whenAsked place (new.toList ++ marks) = whenAsked place marks := by
  cases new with
  | none => rfl
  | some m => exact if_neg fun hm => hnew (congrArg some hm)

/-- Which accepted push was new. -/
theorem accepted_after {j k : ℕ} {l : QueueCall} {s : QueueSnapshot} {push : Push}
    (hnew : queueMark j l s.state = some (.accepted k push)) :
    j = k ∧ l = .call (.sendNotification push) := by
  refine ⟨(place_of_queueMark hnew).symm, ?_⟩
  unfold queueMark at hnew
  split at hnew
  · cases hnew
  · split at hnew <;> cases hnew
  · split at hnew <;> cases hnew
    rfl
  · cases hnew
  · cases hnew

/-- No call but a question of the worker itself changes what it has found. -/
theorem Unreached.after {j : ℕ} {l : QueueCall} {s : QueueSnapshot}
    (hinv : PushLedger alertId deviceId s) (hper : pushPermits alertId deviceId j l s)
    (hask : queueMark j l s.state ≠ some (.asked place))
    (h : Unreached place alertId deviceId s) :
    Unreached place alertId deviceId (s.after queueMark j l l.effect) := by
  intro k push hdone ha hrow
  have hf : .finished k ∈ whenAsked place s.marks := by
    rw [← whenAsked_append hask]
    exact hdone
  rcases Snapshot.mem_after.1 ha with hnew | ha
  · obtain ⟨heq, rfl⟩ := accepted_after hnew
    exact hper.2.2.1 (heq ▸ mem_of_mem_whenAsked hf)
  · have hlt := (hinv.queued k _ (hinv.accepted k push ha).1).1
    exact h k push hf ha (((rowsStay_queueCall l s.state).hasPushRow_iff hlt).1 hrow)

/-- One call of another worker. -/
theorem aside_of_call {j : ℕ} {l : QueueCall} {s : QueueSnapshot}
    (hinv : PushLedger alertId deviceId s) (hper : pushPermits alertId deviceId j l s)
    (hne : j ≠ place) : Aside alertId deviceId place s (s.after queueMark j l l.effect) := by
  have hunreached : Unreached place alertId deviceId s →
      Unreached place alertId deviceId (s.after queueMark j l l.effect) :=
    Unreached.after hinv hper fun hask => hne (place_of_queueMark hask).symm
  have hmark : ∀ mark : QueueMark, mark.place = place →
      mark ∈ (s.after queueMark j l l.effect).marks → mark ∈ s.marks :=
    fun mark hplace hmem => (Snapshot.mem_after.1 hmem).resolve_left fun hnew =>
      hne ((place_of_queueMark hnew).symm.trans hplace)
  cases l with
  | call l =>
      exact ⟨fun job => job_of_grown (jobs_prefix_effect l _), fun push => hmark _ rfl,
        hmark _ rfl, rowsStay_effect l _, fun id hjob => notFailed_of_call hinv hper hjob hne,
        fun id hc => Snapshot.mem_after_of_mem hc, fun id hc => fresh_of_call hinv hper hc hne,
        hunreached⟩
  | _ =>
      exact ⟨fun _ h => h, fun push => hmark _ rfl, hmark _ rfl, .refl _, fun _ _ h => h,
        fun id hc => Snapshot.mem_after_of_mem hc, fun _ _ h => h, hunreached⟩

theorem aside_of_interference {s s' : QueueSnapshot}
    (h : Relation.ReflTransGen ((pushProtocol alertId deviceId).Interference place) s s') :
    Aside alertId deviceId place s s' := by
  induction h with
  | refl => exact .refl s
  | tail _ hstep ih =>
      refine ih.trans ?_
      cases hstep with
      | call j hne hcall =>
          cases hcall with
          | mk l hinv hper hadm => exact aside_of_call hinv hper hne
      | env henv hinv =>
          obtain ⟨added, hjobs, hadded⟩ := henv.jobs
          exact ⟨fun job => job_of_grown ⟨added, hjobs.symm⟩, fun _ h => h, id, henv.rows,
            fun id hjob => henv.failed id (hinv.queued place id hjob).1, fun _ h => h,
            fun id _ hn i hi => hn i ((pushJobAt_append_iff hjobs (hadded id)).1 hi),
            fun hu k push hf ha hrow => hu k push hf ha ((henv.rows.hasPushRow_iff
              (hinv.queued k _ (hinv.accepted k push ha).1).1).1 hrow)⟩

end Aside

/-- The worker of the place is at its job and has handed over no push. -/
structure Working (place : ℕ) (job : Job) (s : QueueSnapshot) : Prop where
  job : s.state.jobs[place]? = some job
  first : ∀ push, .accepted place push ∉ s.marks
  busy : .finished place ∉ s.marks

/-- The calls of a worker at a job that hand over no push, add no job and create no push row. -/
def NotificationCall.worksOn (job : Job) : NotificationCall → Prop
  | queueAdd _ | sendNotification _ => False
  | notificationCreate data => (data.toRow 0 0).isPush = false
  | notificationUpdate id _ => job = .sendPushNotification id
  | _ => True

theorem worksOn_of_silent {job : Job} {l : NotificationCall} (h : l.silent = true) :
    l.worksOn job := by
  cases l with
  | notificationCreate data =>
      rw [NotificationCall.silent, Bool.not_eq_true'] at h
      exact h
  | notificationUpdate id data => cases h
  | queueAdd job' => cases h
  | sendNotification push => cases h
  | _ => trivial

def NotificationCall.hands : NotificationCall → Bool
  | sendNotification _ => true
  | _ => false

def NotificationCall.asks : NotificationCall → Bool
  | notificationFindMany _ _ => true
  | _ => false

section Safe

variable {alertId deviceId place : ℕ} {job : Job} {s : QueueSnapshot}

theorem Working.aside {s' : QueueSnapshot} (h : Working place job s)
    (ha : Aside alertId deviceId place s s') : Working place job s' :=
  ⟨ha.job job h.job, fun push hp => h.first push (ha.accepted push hp),
    fun hf => h.busy (ha.finished hf)⟩

theorem Working.permits (h : Working place job s) {l : NotificationCall} (hl : l.worksOn job) :
    pushPermits alertId deviceId place (.call l) s := by
  cases l with
  | queueAdd job' => cases hl
  | sendNotification push => cases hl
  | notificationCreate data =>
      have hpush : (data.toRow 0 0).isPush = false := hl
      intro htrue
      rw [hpush] at htrue
      cases htrue
  | notificationUpdate id data =>
      obtain rfl : job = .sendPushNotification id := hl
      exact ⟨h.job, fun _ => h.first⟩
  | _ => trivial

/-- A call of this worker that hands over no push. -/
theorem Working.call (h : Working place job s) {l : NotificationCall} (hl : l.hands = false) :
    Working place job (s.after queueMark place (.call l) l.effect) := by
  have hmark : ∀ mark : QueueMark, (∀ id, mark ≠ .created place id) → mark ≠ .asked place →
      mark ∈ (s.after queueMark place (.call l) l.effect).marks → mark ∈ s.marks := by
    intro mark hnot hask hmem
    refine (Snapshot.mem_after.1 hmem).resolve_left fun hnew => ?_
    cases l with
    | sendNotification push => cases hl
    | notificationFindMany alert user => exact hask (Option.some.inj hnew).symm
    | notificationCreate data =>
        rw [queueMark_create] at hnew
        split at hnew
        · exact hnot _ (Option.some.inj hnew).symm
        · cases hnew
    | _ => cases hnew
  exact ⟨job_of_grown (jobs_prefix_effect l _) h.job,
    fun push hp => h.first push (hmark _ nofun nofun hp), fun hf => h.busy (hmark _ nofun nofun hf)⟩

/-- What the worker knows, the steps of others leave it, and so do its own calls of a kind. -/
structure Keeps (alertId deviceId place : ℕ) (kept : NotificationCall → Prop)
    (I : QueueSnapshot → Prop) : Prop where
  aside : ∀ {s s'}, Aside alertId deviceId place s s' → I s → I s'
  call : ∀ {l s}, kept l → PushLedger alertId deviceId s →
    pushPermits alertId deviceId place (.call l) s → I s →
      I (s.after queueMark place (.call l) l.effect)

theorem keeps_working (job : Job) :
    Keeps alertId deviceId place (fun l => l.hands = false) (Working place job) where
  aside := fun ha h => h.aside ha
  call := fun hl _ _ h => h.call hl

section Kept

variable {kept quiet : NotificationCall → Prop} {I : QueueSnapshot → Prop} {α : Type}

/-- A process of calls that are permitted and leave what the worker knows. -/
theorem Keeps.safe (hI : Keeps alertId deviceId place kept I) {p : NotificationProcess α}
    (hp : p.Confined (fun l f => f = l.effect ∧ quiet l) fun _ => True)
    (hquiet : ∀ l, quiet l → kept l ∧ ∀ s, I s → pushPermits alertId deviceId place (.call l) s)
    (hs : I s) :
    Safe (pushProtocol alertId deviceId).contract place (fun _ s' => I s') (p.relabel .call) s := by
  have hcalls : (p.relabel QueueCall.call).Confined (fun l next =>
      next = (pushProtocol alertId deviceId).effect l ∧
      ∀ w, (pushProtocol alertId deviceId).inv w → settledSetting.admits place l w → I w →
        (pushProtocol alertId deviceId).permits place l w ∧ I (w.after settledSetting.mark place l
          ((pushProtocol alertId deviceId).effect l))) fun _ => True := by
    refine Process.Confined.relabel (hp.mono ?_ fun _ => id)
    rintro l f ⟨rfl, hl⟩
    obtain ⟨hkept, hper⟩ := hquiet l hl
    exact ⟨rfl, fun w hinv _ hw => ⟨hper w hw, hI.call hkept hinv (hper w hw) hw⟩⟩
  refine Safe.mono (Protocol.safe_of_guarded hcalls
    (fun w w' hw h => hI.aside (aside_of_interference h) hw) hs) ?_
  exact fun r w' _ h => h.1

/-- The worker has created the row of a push, which has no job yet. -/
structure Fresh (place id : ℕ) (s : QueueSnapshot) : Prop where
  created : .created place id ∈ s.marks
  jobless : ∀ i, ¬ s.state.pushJobAt i id

theorem Fresh.aside {id : ℕ} {s' : QueueSnapshot} (h : Fresh place id s)
    (ha : Aside alertId deviceId place s s') : Fresh place id s' :=
  ⟨ha.created id h.created, ha.fresh id h.created h.jobless⟩

/-- The row of a push, then its job. -/
theorem Keeps.safe_queuePush (hI : Keeps alertId deviceId place kept I) {data : NotificationData}
    (hdata : (data.toRow 0 0).isPush = true) (hcreate : kept (.notificationCreate data))
    (hadd : ∀ id, kept (.queueAdd (.sendPushNotification id)))
    (hper : ∀ s, I s → pushPermits alertId deviceId place (.call (.notificationCreate data)) s)
    (hs : I s) :
    Safe (pushProtocol alertId deviceId).contract place (fun _ s' => I s')
      ((create data >>= fun id => write (.queueAdd (.sendPushNotification id))).relabel .call)
      s := by
  rw [Process.relabel_bind]
  apply Safe.bind
  unfold create
  rw [Process.relabel_atomic]
  refine Protocol.safe_call rfl fun s₁ hr hinv => ?_
  have hs₁ := hI.aside (aside_of_interference hr) hs
  refine ⟨fun _ => ⟨hper s₁ hs₁, fun _ => ?_⟩, fun _ => ?_⟩
  · have hcreated : I (s₁.after queueMark place (.call (.notificationCreate data))
        (notificationCreate data).effect) := hI.call hcreate hinv (hper s₁ hs₁) hs₁
    cases htakes : s₁.state.takesNotification data with
    | false =>
        simp only [htakes, Bool.false_eq_true, if_false]
        exact Safe.raise fun s₂ hr₂ _ => hI.aside (aside_of_interference hr₂) hcreated
    | true =>
        have hfresh : Fresh place s₁.state.notifications.next (s₁.after queueMark place
            (.call (.notificationCreate data)) (notificationCreate data).effect) := by
          refine ⟨Snapshot.mem_after.2 (.inl ?_), fun i hi => ?_⟩
          · rw [queueMark_create, htakes, hdata]
            rfl
          · rw [Snapshot.state_after, effect_create, if_pos htakes] at hi
            exact Nat.lt_irrefl _ (hinv.queued i _ hi).1
        simp only [htakes, if_true]
        refine Safe.ret fun s₂ hr₂ _ => ?_
        have hs₂ := hI.aside (aside_of_interference hr₂) hcreated
        have hfresh₂ := hfresh.aside (aside_of_interference hr₂)
        refine Protocol.safe_call rfl fun s₃ hr₃ hinv₃ => ?_
        have hs₃ := hI.aside (aside_of_interference hr₃) hs₂
        have hfresh₃ := hfresh₂.aside (aside_of_interference hr₃)
        have hadds : pushPermits alertId deviceId place
            (.call (.queueAdd (.sendPushNotification s₁.state.notifications.next))) s₃ := by
          intro id heq
          obtain rfl := Job.sendPushNotification.inj heq
          exact ⟨hfresh₃.created, hfresh₃.jobless⟩
        refine ⟨fun _ => ⟨hadds, fun _ => ?_⟩, fun _ => ?_⟩
        · exact Safe.ret fun s₄ hr₄ _ =>
            hI.aside (aside_of_interference hr₄) (hI.call (hadd _) hinv₃ hadds hs₃)
        · exact Safe.raise fun s₄ hr₄ _ => hI.aside (aside_of_interference hr₄) hs₃
  · exact Safe.raise fun s₂ hr₂ _ => hI.aside (aside_of_interference hr₂) hs₁

theorem Keeps.safe_forEach (hI : Keeps alertId deviceId place kept I) {xs : List α}
    {body : α → NotificationProcess Unit}
    (hbody : ∀ x ∈ xs, ∀ s, I s → Safe (pushProtocol alertId deviceId).contract place
      (fun _ s' => I s') ((body x).relabel .call) s) (hs : I s) :
    Safe (pushProtocol alertId deviceId).contract place (fun _ s' => I s')
      ((Process.forEach xs body).relabel .call) s := by
  induction xs generalizing s with
  | nil => exact Safe.ret fun _ hr _ => hI.aside (aside_of_interference hr) hs
  | cons x xs ih =>
      rw [Process.forEach]
      refine Safe.relabel_bind (hbody x List.mem_cons_self s hs) (fun _ _ _ h => h) ?_
      intro a s' _ hs'
      exact ih (fun x' hx' => hbody x' (List.mem_cons_of_mem x hx')) hs'

end Kept

theorem hands_of_silent {l : NotificationCall} (hl : l.silent = true) : l.hands = false := by
  cases l with
  | sendNotification push => cases hl
  | _ => rfl

theorem hands_of_worksOn {l : NotificationCall} (hl : l.worksOn job) : l.hands = false := by
  cases l with
  | sendNotification push => cases hl
  | _ => rfl

/-- What calls of a worker at a job do keeps it working. -/
theorem safe_working {α : Type} {p : NotificationProcess α}
    (hp : p.Confined (fun l f => f = l.effect ∧ l.worksOn job) fun _ => True)
    (hs : Working place job s) :
    Safe (pushProtocol alertId deviceId).contract place (fun _ s' => Working place job s')
      (p.relabel .call) s :=
  (keeps_working job).safe hp (fun _ hl => ⟨hands_of_worksOn hl, fun _ h => h.permits hl⟩) hs

/-- A process that queues the pushes of a story keeps its worker working. -/
theorem Queues.safe {quiet : NotificationCall → Prop} {ok : NotificationData → Prop} {α : Type}
    {p : NotificationProcess α} (hp : Queues quiet ok p) (hquiet : ∀ l, quiet l → l.worksOn job)
    (hok : ∀ data, ok data → (data.toRow 0 0).isPush = true ∧ (data.toRow 0 0).isStory = true)
    (hs : Working place job s) :
    Safe (pushProtocol alertId deviceId).contract place (fun _ s' => Working place job s')
      (p.relabel .call) s := by
  induction hp generalizing s with
  | quiet hp => exact safe_working (hp.mono (fun l f h => ⟨h.1, hquiet l h.2⟩) fun _ => id) hs
  | @push data hdata =>
      obtain ⟨hpush, hstory⟩ := hok data hdata
      refine (keeps_working job).safe_queuePush hpush rfl (fun _ => rfl) (fun s _ _ hno => ?_) hs
      rw [hstory] at hno
      cases hno
  | bind _ _ ihp ihk =>
      exact Safe.relabel_bind (ihp hs) (fun _ _ _ h => h) fun a s' _ hs' => ihk a hs'

end Safe

section Wave

variable {alertId deviceId place : ℕ} {job : Job} {s : QueueSnapshot}

/-- The worker has looked up devices. -/
structure Owning (place : ℕ) (job : Job) (devices : List Device) (s : QueueSnapshot) : Prop
    extends Working place job s where
  owner : ∀ d ∈ devices, s.state.deviceOwner d.id = some d.user_id

/-- And it has found the user of the targets unreached. -/
structure Clear (alertId deviceId place : ℕ) (job : Job) (devices : List Device) (alert : ℕ)
    (targets : List ℕ) (s : QueueSnapshot) : Prop extends Owning place job devices s where
  unreached : alert = alertId → deviceId ∈ targets → Unreached place alertId deviceId s

variable {devices : List Device} {alert : ℕ} {targets : List ℕ}

theorem keeps_owning (devices : List Device) :
    Keeps alertId deviceId place (fun l => l.hands = false) (Owning place job devices) where
  aside := fun ha h => ⟨h.toWorking.aside ha, fun d hd => ha.rows.owner _ _ (h.owner d hd)⟩
  call := fun hl _ _ h => ⟨h.toWorking.call hl, fun d hd =>
    (rowsStay_effect _ _).owner _ _ (h.owner d hd)⟩

theorem queueMark_ne_asked {l : NotificationCall} {w : World} (hl : l.asks = false) :
    queueMark place (.call l) w ≠ some (.asked place) := by
  cases l with
  | notificationFindMany alert user => cases hl
  | notificationCreate data =>
      rw [queueMark_create]
      split <;> nofun
  | sendNotification push =>
      unfold queueMark
      dsimp only
      split <;> nofun
  | _ => nofun

theorem keeps_clear (devices : List Device) (alert : ℕ) (targets : List ℕ) :
    Keeps alertId deviceId place (fun l => l.hands = false ∧ l.asks = false)
      (Clear alertId deviceId place job devices alert targets) where
  aside := fun ha h => ⟨(keeps_owning devices).aside ha h.toOwning, fun halert hmem =>
    ha.unreached (h.unreached halert hmem)⟩
  call := fun hl hinv hper h => ⟨(keeps_owning devices).call hl.1 hinv hper h.toOwning,
    fun halert hmem => (h.unreached halert hmem).after hinv hper (queueMark_ne_asked hl.2)⟩

theorem Owning.safe_silently {α : Type} {p : NotificationProcess α} (hp : Silent p)
    (hs : Owning place job devices s) :
    Safe (pushProtocol alertId deviceId).contract place (fun _ s' => Owning place job devices s')
      (p.relabel .call) s :=
  (keeps_owning devices).safe hp (fun _ hl => ⟨hands_of_silent hl, fun _ h =>
    h.toWorking.permits (worksOn_of_silent hl)⟩) hs

/-- When the guard finds the user of a device not reached, no push for the device was accepted
among the jobs that are finished. -/
theorem unreached_of_not_notified {user : ℕ} (hinv : PushLedger alertId deviceId s)
    (howner : s.state.deviceOwner deviceId = some user)
    (h : beenNotified s.state alertId user .PUSH = false) :
    Unreached place alertId deviceId ⟨s.state, .asked place :: s.marks⟩ := by
  intro k push hf ha hrow
  have hf : .finished k ∈ s.marks := by
    rw [whenAsked, if_pos rfl] at hf
    exact hf
  have ha : .accepted k push ∈ s.marks := (List.mem_cons.1 ha).resolve_left nofun
  obtain ⟨j, hc⟩ := (hinv.queued k _ (hinv.accepted k push ha).1).2.resolve_right
    fun hno => hno hrow
  obtain ⟨n, hn, halert, hdevice, -⟩ := hrow
  have hpush := hinv.kind j _ n hc hn
  unfold Notification.isPush at hpush
  rw [Bool.and_eq_true, decide_eq_true_eq] at hpush
  unfold beenNotified at h
  rw [List.any_eq_false] at h
  apply h n (Table.mem_of_find? hn)
  have hown : s.state.ownerOf n = some user := by
    rw [← hdevice] at howner
    exact howner
  simp [halert, hpush.1, hpush.2, hown, hinv.settled k push hf ha n hn]

/-- The guard of a wave. -/
theorem Owning.safe_hasBeenNotified {userId : Ident} {user : ℕ}
    (huser : userId.parseInt = some user)
    (htargets : ∀ t ∈ targets, ∃ d ∈ devices, d.id = t ∧ d.user_id = user)
    (hs : Owning place job devices s) :
    Safe (pushProtocol alertId deviceId).contract place
      (fun r s' => Owning place job devices s' ∧ (r = .ok false →
        Clear alertId deviceId place job devices alert targets s'))
      ((hasBeenNotified alert userId .PUSH).relabel .call) s := by
  unfold hasBeenNotified numericId
  rw [huser]
  refine Protocol.safe_call rfl fun s₁ hr hinv => ?_
  have hs₁ := (keeps_owning devices).aside (aside_of_interference hr) hs
  refine ⟨fun _ => ⟨trivial, fun _ => ?_⟩, fun _ => ?_⟩
  · have hasked : Owning place job devices (s₁.after queueMark place
        (.call (.notificationFindMany alert user)) id) :=
      (keeps_owning devices).call rfl hinv trivial hs₁
    refine Safe.ret fun s₂ hr₂ _ => ?_
    have ha₂ := aside_of_interference hr₂
    refine ⟨(keeps_owning devices).aside ha₂ hasked, fun hfalse => ?_⟩
    refine (keeps_clear devices alert targets).aside ha₂ ⟨hasked, fun halert hmem => ?_⟩
    obtain ⟨d, hd, hid, howner⟩ := htargets deviceId hmem
    have hknown : s₁.state.deviceOwner deviceId = some user := by
      rw [← hid, ← howner]
      exact hs₁.owner d hd
    rw [halert] at hfalse
    exact unreached_of_not_notified hinv hknown (Except.ok.inj hfalse)
  · refine Safe.raise fun s₂ hr₂ _ => ⟨(keeps_owning devices).aside (aside_of_interference hr₂) hs₁,
      nofun⟩

/-- The pushes of a user, one after the other. -/
theorem Clear.safe_pushAll {m : DeviceMatch}
    (hs : Clear alertId deviceId place job devices alert targets s) :
    Safe (pushProtocol alertId deviceId).contract place
      (fun _ s' => Clear alertId deviceId place job devices alert targets s')
      ((Process.forEach targets (queuePush alert m)).relabel .call) s := by
  have hkeeps : Keeps alertId deviceId place _
      (Clear alertId deviceId place job devices alert targets) := keeps_clear devices alert targets
  refine hkeeps.safe_forEach (fun t ht s₁ hs₁ => ?_) hs
  refine hkeeps.safe_queuePush rfl ⟨rfl, rfl⟩ (fun _ => ⟨rfl, rfl⟩) ?_ hs₁
  intro s₂ hs₂ _ _ halert hdevice
  have hdevice : t = deviceId := hdevice
  exact hs₂.unreached halert (hdevice ▸ ht)

theorem Clear.safe_isOverDailyCap {userId : Ident} {wave : NotificationConfidence}
    (hs : Clear alertId deviceId place job devices alert targets s) :
    Safe (pushProtocol alertId deviceId).contract place
      (fun _ s' => Clear alertId deviceId place job devices alert targets s')
      ((isOverDailyCap userId wave).relabel .call) s := by
  have hcalls : (isOverDailyCap userId wave).Confined (fun l f => f = l.effect ∧
      (l.silent = true ∧ l.asks = false)) fun _ => True := by
    have hnow : (LocationService.dateNow : NotificationProcess Time).Confined (fun l f =>
        f = l.effect ∧ (l.silent = true ∧ l.asks = false)) fun _ => True :=
      Process.confined_query ⟨rfl, rfl, rfl⟩ trivial
    refine hnow.bind fun now => ?_
    unfold numericId
    cases userId.parseInt with
    | none => trivial
    | some user => exact Process.confined_query ⟨rfl, rfl, rfl⟩ trivial
  refine (keeps_clear devices alert targets).safe hcalls (fun l hl => ?_) hs
  exact ⟨⟨hands_of_silent hl.1, hl.2⟩, fun _ h => h.toWorking.permits (worksOn_of_silent hl.1)⟩

theorem Owning.safe_pushTargets {wave : NotificationConfidence} {inQuietHours : Bool}
    {userId : Ident}
    {user : ℕ} (huser : userId.parseInt = some user)
    (htargets : ∀ t ∈ targets, ∃ d ∈ devices, d.id = t ∧ d.user_id = user) {m : DeviceMatch}
    (hs : Owning place job devices s) :
    Safe (pushProtocol alertId deviceId).contract place (fun _ s' => Owning place job devices s')
      ((pushTargets alert wave inQuietHours targets userId m).relabel .call) s := by
  unfold pushTargets
  split
  · exact hs.safe_silently (silent_excludeAll _ _)
  refine Safe.relabel_bind (hs.safe_hasBeenNotified huser htargets) (fun _ _ _ h => h.1) ?_
  rintro notified s₁ - ⟨hs₁, hclear⟩
  cases notified with
  | true => exact hs₁.safe_silently (silent_excludeAll _ _)
  | false =>
      rw [if_neg Bool.false_ne_true]
      refine Safe.relabel_bind (hclear rfl).safe_isOverDailyCap (fun _ _ _ h => h.toOwning) ?_
      intro capped s₂ _ hs₂
      cases capped with
      | true => exact hs₂.toOwning.safe_silently (silent_excludeAll _ _)
      | false => exact Safe.mono hs₂.safe_pushAll fun _ _ _ h => h.toOwning

theorem mem_devicesByUser {devices : List Device} {k : Ident} {t : ℕ}
    (h : t ∈ ((devicesByUser devices).get k).getD []) :
    ∃ d ∈ devices, d.id = t ∧ k = .str (toString d.user_id) := by
  rw [devicesByUser, Assoc.get_groupBy] at h
  obtain ⟨d, hd, hid⟩ := List.mem_map.1 h
  obtain ⟨hmem, hk⟩ := List.mem_filter.1 hd
  exact ⟨d, hmem, hid, (of_decide_eq_true hk).symm⟩

theorem Owning.safe_pushUser {wave : NotificationConfidence} {inQuietHours : Bool}
    {entry : Ident × DeviceMatch} (hs : Owning place job devices s) :
    Safe (pushProtocol alertId deviceId).contract place (fun _ s' => Owning place job devices s')
      ((pushUser alert wave inQuietHours (devicesByUser devices) entry).relabel .call) s := by
  unfold pushUser
  dsimp only
  cases hfound : ((devicesByUser devices).get entry.1).getD [] with
  | nil => exact hs.safe_silently (silent_recordUnreachable _)
  | cons t targets =>
      have hmem : ∀ t' ∈ t :: targets, ∃ d ∈ devices, d.id = t' ∧
          entry.1 = .str (toString d.user_id) := by
        rw [← hfound]
        exact fun t' => mem_devicesByUser
      obtain ⟨d, -, -, hkey⟩ := hmem t List.mem_cons_self
      have huser : entry.1.parseInt = some d.user_id := by
        rw [hkey]
        exact IntegerColumns.parseInt_read .string d.user_id
      refine hs.safe_pushTargets huser fun t' ht' => ?_
      obtain ⟨d', hd', hid, hkey'⟩ := hmem t' ht'
      refine ⟨d', hd', hid, str_toString_inj.1 ?_⟩
      rw [← hkey', ← hkey]

/-- The reachable devices, with their owners. -/
theorem Working.safe_findReachableDevices (userIds : List ℕ) (hs : Working place job s) :
    Safe (pushProtocol alertId deviceId).contract place
      (fun r s' => Working place job s' ∧ ∀ devices, r = .ok devices → Owning place job devices s')
      ((findReachableDevices userIds).relabel .call) s := by
  unfold findReachableDevices
  split
  · refine Safe.ret fun s₁ hr _ => ?_
    have hs₁ := hs.aside (aside_of_interference hr)
    refine ⟨hs₁, fun devices heq => ⟨hs₁, fun d hd => ?_⟩⟩
    cases heq
    cases hd
  · refine Protocol.safe_call rfl fun s₁ hr _ => ⟨fun _ => ⟨trivial, fun _ => ?_⟩, fun _ => ?_⟩
    · have hs₁ := hs.aside (aside_of_interference hr)
      refine Safe.ret fun s₂ hr₂ _ => ?_
      have ha₂ := aside_of_interference hr₂
      refine ⟨hs₁.aside ha₂, fun devices heq => ?_⟩
      have heq : reachableDevices s₁.state userIds = devices := Except.ok.inj heq
      refine ⟨hs₁.aside ha₂, fun d hd => ha₂.rows.owner _ _ ?_⟩
      rw [← heq] at hd
      have hrow : d ∈ s₁.state.devices.rows := (List.mem_filter.1 hd).1
      have howner : s₁.state.deviceOwner d.id = some d.user_id := by
        unfold World.deviceOwner
        rw [Table.find?_of_mem hrow, Option.map_some]
      exact howner
    · exact Safe.raise fun s₂ hr₂ _ =>
        ⟨(hs.aside (aside_of_interference hr)).aside (aside_of_interference hr₂), nofun⟩

theorem Working.safe_silently {α : Type} {p : NotificationProcess α} (hp : Silent p)
    (hs : Working place job s) :
    Safe (pushProtocol alertId deviceId).contract place (fun _ s' => Working place job s')
      (p.relabel .call) s :=
  safe_working (hp.mono (fun _ _ h => ⟨h.1, worksOn_of_silent h.2⟩) fun _ h => h) hs

theorem Working.safe_notifyMatches (E : NotificationEnv) {wave : NotificationConfidence}
    {ms : List DeviceMatch} (hs : Working place job s) :
    Safe (pushProtocol alertId deviceId).contract place (fun _ s' => Working place job s')
      ((notifyMatches E alert wave ms).relabel .call) s := by
  unfold notifyMatches
  refine Safe.relabel_bind (hs.safe_silently silent_dateNow) (fun _ _ _ h => h) ?_
  intro now s₁ _ hs₁
  refine Safe.relabel_bind (hs₁.safe_findReachableDevices _) (fun _ _ _ h => h.1) ?_
  rintro devices s₂ - ⟨-, howning⟩
  refine Safe.relabel_bind ((keeps_owning devices).safe_forEach (fun m _ s hs =>
    hs.safe_silently (silent_recordTokenless m)) (howning devices rfl))
    (fun _ _ _ h => h.toWorking) ?_
  intro _ s₃ _ hs₃
  refine Safe.relabel_bind ((keeps_owning devices).safe_forEach (fun entry _ s hs =>
    hs.safe_pushUser) hs₃) (fun _ _ _ h => h.toWorking) ?_
  intro _ s₄ _ hs₄
  split
  · exact (keeps_working job).safe_forEach (fun entry _ s hs =>
      hs.safe_silently (silent_emailUser entry)) hs₄.toWorking
  · exact Safe.ret fun _ hr _ => hs₄.toWorking.aside (aside_of_interference hr)

/-- The job of a wave. -/
theorem Working.safe_processAlertNotifications (E : NotificationEnv)
    (wave? : Option NotificationConfidence) (hs : Working place job s) :
    Safe (pushProtocol alertId deviceId).contract place (fun _ s' => Working place job s')
      ((processAlertNotifications E alert wave?).relabel .call) s := by
  have hread : Silent (NotificationCall.read (.location (.alertFindUnique alert))
      fun w : World => w.alerts.find? alert) := silent_read rfl rfl
  have hret : ∀ s, Working place job s → Safe (pushProtocol alertId deviceId).contract place
      (fun _ s' => Working place job s')
        ((Process.ret () : NotificationProcess Unit).relabel .call) s :=
    fun s hs => Safe.ret fun _ hr _ => hs.aside (aside_of_interference hr)
  unfold processAlertNotifications
  refine Safe.relabel_bind (hs.safe_silently hread) (fun _ _ _ h => h) ?_
  intro found s₁ _ hs₁
  cases found with
  | none => exact hret s₁ hs₁
  | some row =>
      dsimp only
      split
      · exact hret s₁ hs₁
      refine Safe.relabel_bind (hs₁.safe_silently (silent_findDevicesForAlert _ _))
        (fun _ _ _ h => h) ?_
      exact fun allMatches s₂ _ hs₂ => hs₂.safe_notifyMatches E

end Wave

end FifiAlert
