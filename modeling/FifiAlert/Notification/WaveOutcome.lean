import FifiAlert.Notification.FanOut

/-!
# What a wave adds

The rows, jobs and emails that a wave job adds are read off its plan. A row of a
push belongs to a device under the string id of its owner, every such row has one
job, and every other row is an exclusion or the record of an email.
-/

namespace FifiAlert

open Concurrency Store Js LocationService NotificationService NotificationQueueProcessor

/-- What was added to the rows, the queue and the emails. -/
structure Added where
  rows : List Notification
  jobs : List Job
  emails : List Email

def World.addedSince (w' w : World) : Added where
  rows := w'.notifications.rows.drop w.notifications.rows.length
  jobs := w'.jobs.drop w.jobs.length
  emails := w'.emails.drop w.emails.length

/-- The row of a push, not an exclusion and not the record of an email. -/
def Notification.isPush (n : Notification) : Bool :=
  !n.excluded && n.channel = .PUSH

/-- The device has one new push row for the alert, queued, with one job. -/
def PushedOnce (added : Added) (alertId deviceId : ℕ) : Prop :=
  ∃ row, (added.rows.filter fun r => r.device_id = deviceId && r.isPush) = [row] ∧
    row.alert_id = alertId ∧ row.status = .QUEUED ∧
    added.jobs.count (.sendPushNotification row.id) = 1

/-- The rows of a list of acts, from the next id on. -/
def rowsOf (now : Time) : ℕ → List Act → List Notification
  | _, [] => []
  | n, .create data :: l => data.toRow now n :: rowsOf now (n + 1) l
  | n, .push data :: l => data.toRow now n :: rowsOf now (n + 1) l
  | n, .send _ :: l => rowsOf now n l

def jobsOf : ℕ → List Act → List Job
  | _, [] => []
  | n, .create _ :: l => jobsOf (n + 1) l
  | n, .push _ :: l => .sendPushNotification n :: jobsOf (n + 1) l
  | n, .send _ :: l => jobsOf n l

def emailsOf (l : List Act) : List Email :=
  l.filterMap fun
    | .send email => some email
    | _ => none

def Act.pushesTo (deviceId : ℕ) : Act → Bool
  | push data => data.device_id = deviceId
  | _ => false

/-- The row of a push for the alert that waits in the queue. -/
structure NotificationData.IsPushFor (data : NotificationData) (alertId : ℕ) : Prop where
  alert : data.alert_id = alertId
  isPush : (data.toRow 0 0).isPush = true
  queued : data.status = .QUEUED

/-- The acts of a fan-out for the alert: pushes, and rows that are not those of a push. -/
def Act.forAlert (alertId : ℕ) : Act → Prop
  | create data => (data.toRow 0 0).isPush = false
  | push data => data.IsPushFor alertId
  | send _ => True

section Acts

variable {w : World} {l : List Act} {alertId deviceId n : ℕ} {now : Time}

theorem notifications_acts (w : World) (l : List Act) :
    (w.acts l).notifications.rows =
      w.notifications.rows ++ rowsOf w.now w.notifications.next l := by
  induction l generalizing w with
  | nil => simp [rowsOf]
  | cons a l ih =>
      cases a with
      | create data => simp [World.acts_cons, ih, World.act, World.createNotification, rowsOf]
      | push data => simp [World.acts_cons, ih, World.act, World.createNotification, rowsOf]
      | send email => simp [World.acts_cons, ih, World.act, rowsOf]

theorem jobs_acts (w : World) (l : List Act) :
    (w.acts l).jobs = w.jobs ++ jobsOf w.notifications.next l := by
  induction l generalizing w with
  | nil => simp [jobsOf]
  | cons a l ih =>
      cases a with
      | create data => simp [World.acts_cons, ih, World.act, World.createNotification, jobsOf]
      | push data => simp [World.acts_cons, ih, World.act, World.createNotification, jobsOf]
      | send email => simp [World.acts_cons, ih, World.act, jobsOf]

theorem emails_acts (w : World) (l : List Act) : (w.acts l).emails = w.emails ++ emailsOf l := by
  induction l generalizing w with
  | nil => simp [emailsOf]
  | cons a l ih =>
      cases a with
      | create data => simp [World.acts_cons, ih, World.act, World.createNotification, emailsOf]
      | push data => simp [World.acts_cons, ih, World.act, World.createNotification, emailsOf]
      | send email => simp [World.acts_cons, ih, World.act, emailsOf]

theorem addedSince_acts (w : World) (l : List Act) :
    (w.acts l).addedSince w =
      ⟨rowsOf w.now w.notifications.next l, jobsOf w.notifications.next l, emailsOf l⟩ := by
  unfold World.addedSince
  rw [notifications_acts, jobs_acts, emails_acts, List.drop_left, List.drop_left, List.drop_left]

theorem mem_emailsOf {email : Email} : email ∈ emailsOf l ↔ Act.send email ∈ l := by
  unfold emailsOf
  rw [List.mem_filterMap]
  constructor
  · rintro ⟨a, ha, he⟩
    cases a with
    | send e =>
        obtain rfl := Option.some.inj he
        exact ha
    | create data => cases he
    | push data => cases he
  · exact fun h => ⟨_, h, rfl⟩

/-- A row comes from the act that created it. -/
theorem mem_rowsOf {r : Notification} (h : r ∈ rowsOf now n l) :
    n ≤ r.id ∧ ∃ data, r = data.toRow now r.id ∧ (Act.create data ∈ l ∨ Act.push data ∈ l) := by
  induction l generalizing n with
  | nil => cases h
  | cons a l ih =>
      cases a with
      | send email =>
          obtain ⟨hle, data, hr, hl⟩ := ih h
          exact ⟨hle, data, hr, by simpa using hl⟩
      | create data =>
          rcases List.mem_cons.1 h with rfl | h
          · exact ⟨Nat.le_refl n, data, rfl, .inl List.mem_cons_self⟩
          · obtain ⟨hle, data', hr, hl⟩ := ih h
            exact ⟨Nat.le_of_succ_le hle, data', hr, hl.imp (List.mem_cons_of_mem _)
              (List.mem_cons_of_mem _)⟩
      | push data =>
          rcases List.mem_cons.1 h with rfl | h
          · exact ⟨Nat.le_refl n, data, rfl, .inr List.mem_cons_self⟩
          · obtain ⟨hle, data', hr, hl⟩ := ih h
            exact ⟨Nat.le_of_succ_le hle, data', hr, hl.imp (List.mem_cons_of_mem _)
              (List.mem_cons_of_mem _)⟩

variable (now) in
/-- A job is for a row of a push. -/
theorem mem_jobsOf {job : Job} (h : job ∈ jobsOf n l) : ∃ id data, n ≤ id ∧
    job = .sendPushNotification id ∧ Act.push data ∈ l ∧ data.toRow now id ∈ rowsOf now n l := by
  induction l generalizing n with
  | nil => cases h
  | cons a l ih =>
      cases a with
      | send email =>
          obtain ⟨id, data, hle, hjob, hl, hrow⟩ := ih h
          exact ⟨id, data, hle, hjob, List.mem_cons_of_mem _ hl, hrow⟩
      | create data =>
          obtain ⟨id, data', hle, hjob, hl, hrow⟩ := ih h
          exact ⟨id, data', Nat.le_of_succ_le hle, hjob, List.mem_cons_of_mem _ hl,
            List.mem_cons_of_mem _ hrow⟩
      | push data =>
          rcases List.mem_cons.1 h with rfl | h
          · exact ⟨n, data, Nat.le_refl n, rfl, List.mem_cons_self, List.mem_cons_self⟩
          · obtain ⟨id, data', hle, hjob, hl, hrow⟩ := ih h
            exact ⟨id, data', Nat.le_of_succ_le hle, hjob, List.mem_cons_of_mem _ hl,
              List.mem_cons_of_mem _ hrow⟩

/-- `isPush` asks for nothing that depends on when the row was made. -/
theorem isPush_toRow (data : NotificationData) (now : Time) (id : ℕ) :
    (data.toRow now id).isPush = (data.toRow 0 0).isPush := rfl

theorem isPushFor_pushData (m : DeviceMatch) : (pushData alertId m deviceId).IsPushFor alertId :=
  ⟨rfl, rfl, rfl⟩

variable (n now) in
/-- The push rows of a device are as many as the pushes to it. -/
theorem length_pushRows (hl : ∀ a ∈ l, a.forAlert alertId) :
    ((rowsOf now n l).filter fun r => r.device_id = deviceId && r.isPush).length =
      l.countP (Act.pushesTo deviceId) := by
  induction l generalizing n with
  | nil => rfl
  | cons a l ih =>
      have ha := hl a List.mem_cons_self
      have hrest := fun n => ih (n := n) fun b hb => hl b (List.mem_cons_of_mem a hb)
      cases a with
      | send email => simpa [rowsOf, Act.pushesTo] using hrest n
      | create data =>
          have hrow : (data.toRow now n).isPush = false := ha
          simpa [rowsOf, Act.pushesTo, hrow] using hrest (n + 1)
      | push data =>
          have hpush : (data.toRow now n).isPush = true := ha.isPush
          have hdevice : (data.toRow now n).device_id = data.device_id := rfl
          have hto : (Act.push data).pushesTo deviceId = decide (data.device_id = deviceId) := rfl
          rw [rowsOf, List.countP_cons, List.filter_cons, hto, hdevice, hpush, Bool.and_true]
          by_cases hd : data.device_id = deviceId
          · rw [if_pos (by simpa using hd), if_pos (by simpa using hd), List.length_cons,
              hrest (n + 1)]
          · rw [if_neg (by simpa using hd), if_neg (by simpa using hd), hrest (n + 1), Nat.add_zero]

/-- The row of a push comes from a push. -/
theorem push_of_mem_rowsOf (hl : ∀ a ∈ l, a.forAlert alertId) {r : Notification}
    (hr : r ∈ rowsOf now n l) (hpush : r.isPush = true) :
    ∃ data, Act.push data ∈ l ∧ r = data.toRow now r.id ∧ data.IsPushFor alertId := by
  obtain ⟨-, data, heq, hact⟩ := mem_rowsOf hr
  rcases hact with hact | hact
  · have hfalse : (data.toRow 0 0).isPush = false := hl _ hact
    rw [heq, isPush_toRow, hfalse] at hpush
    cases hpush
  · exact ⟨data, hact, heq, hl _ hact⟩

/-- A push row has one job. -/
theorem count_jobsOf (hl : ∀ a ∈ l, a.forAlert alertId) {r : Notification}
    (hr : r ∈ rowsOf now n l) (hpush : r.isPush = true) :
    (jobsOf n l).count (.sendPushNotification r.id) = 1 := by
  induction l generalizing n with
  | nil => cases hr
  | cons a l ih =>
      have ha := hl a List.mem_cons_self
      have hrest := fun n => ih (n := n) fun b hb => hl b (List.mem_cons_of_mem a hb)
      cases a with
      | send email => exact hrest n hr
      | create data =>
          rcases List.mem_cons.1 hr with rfl | hr
          · have hrow : (data.toRow now n).isPush = false := ha
            rw [hrow] at hpush
            cases hpush
          · exact hrest (n + 1) hr
      | push data =>
          have hfresh : (jobsOf (n + 1) l).count (.sendPushNotification n) = 0 := by
            rw [List.count_eq_zero]
            intro hjob
            obtain ⟨id, -, hle, hid, -⟩ := mem_jobsOf now hjob
            cases hid
            exact Nat.not_succ_le_self n hle
          rcases List.mem_cons.1 hr with rfl | hr
          · have hid : (data.toRow now n).id = n := rfl
            simp [jobsOf, hid, hfresh]
          · have hle := (mem_rowsOf hr).1
            have hne : n ≠ r.id := Nat.ne_of_lt hle
            simp [jobsOf, hne, hrest (n + 1) hr]

/-- One push to a device: one queued row for the alert, with one job. -/
theorem pushedOnce_iff (hl : ∀ a ∈ l, a.forAlert alertId) :
    PushedOnce ((w.acts l).addedSince w) alertId deviceId ↔
      l.countP (Act.pushesTo deviceId) = 1 := by
  rw [addedSince_acts, ← length_pushRows w.notifications.next w.now hl,
    List.length_eq_one_iff]
  constructor
  · rintro ⟨row, hrow, -⟩
    exact ⟨row, hrow⟩
  · rintro ⟨row, hrow⟩
    have hmem : row ∈ (rowsOf w.now w.notifications.next l).filter fun r =>
        r.device_id = deviceId && r.isPush := by
      rw [hrow]
      exact List.mem_cons_self
    obtain ⟨hrows, hcond⟩ := List.mem_filter.1 hmem
    have hpush : row.isPush = true := by
      simp only [Bool.and_eq_true] at hcond
      exact hcond.2
    obtain ⟨data, -, heq, hdata⟩ := push_of_mem_rowsOf hl hrows hpush
    refine ⟨row, hrow, ?_, ?_, count_jobsOf hl hrows hpush⟩
    · rw [heq]
      exact hdata.alert
    · rw [heq]
      exact hdata.queued

end Acts

section Wave

variable {E : NotificationEnv} {alertId : ℕ} {wave : NotificationConfidence} {w : World}
  {ms : List DeviceMatch}

theorem forAlert_of_exclusion {a : Act} {targets : List ℕ} {reason : ExclusionReason}
    (h : a ∈ exclusionActs alertId targets reason) : a.forAlert alertId := by
  obtain ⟨d, -, rfl⟩ := List.mem_map.1 h
  rfl

theorem mem_tokenlessActs {a : Act} {m : DeviceMatch} (h : a ∈ tokenlessActs alertId m) :
    ∃ targets reason, a ∈ exclusionActs alertId targets reason := by
  unfold tokenlessActs tokenMissingActs at h
  split at h
  · exact ⟨_, _, h⟩
  · cases h

/-- An email act sends to the user of the entry, or records it. -/
theorem mem_emailActs {v : World} {entry : Ident × DeviceMatch} {a : Act}
    (h : a ∈ emailActs alertId v entry) :
    (∃ deviceId sent, a = .create (emailData alertId entry.2 deviceId sent v.now) ∧
        entry.2.deviceId.parseInt = some deviceId) ∨
      ∃ email userId, a = .send ⟨"newAlert", email, alertId⟩ ∧ entry.1.parseInt = some userId ∧
        v.verifiedEmail userId = some email := by
  have hrecord : ∀ sent, a ∈ recordActs alertId entry.2 sent v →
      ∃ deviceId sent, a = .create (emailData alertId entry.2 deviceId sent v.now) ∧
        entry.2.deviceId.parseInt = some deviceId := by
    intro sent ha
    obtain ⟨deviceId, hid, rfl⟩ := List.mem_map.1 ha
    exact ⟨deviceId, sent, rfl, by simpa using hid⟩
  unfold emailActs at h
  cases huser : entry.1.parseInt with
  | none =>
      rw [huser] at h
      cases h
  | some userId =>
      rw [huser, Option.elim_some] at h
      split at h
      · cases h
      split at h
      · cases h
      split at h
      · exact .inl (hrecord _ h)
      · rename_i email hemail
        rcases List.mem_cons.1 h with rfl | h
        · exact .inr ⟨email, userId, rfl, rfl, hemail⟩
        · exact .inl (hrecord _ h)

/-- An act of the email pass is an act for one of its entries. -/
theorem mem_emailPassActs {v : World} {entries : List (Ident × DeviceMatch)} {a : Act}
    (h : a ∈ emailPassActs alertId v entries) : ∃ pre entry post, entries = pre ++ entry :: post ∧
      a ∈ emailActs alertId (v.acts (emailPassActs alertId v pre)) entry := by
  induction entries generalizing v with
  | nil => cases h
  | cons entry entries ih =>
      rcases List.mem_append.1 h with h | h
      · exact ⟨[], entry, entries, rfl, h⟩
      · obtain ⟨pre, entry', post, hsplit, ha⟩ := ih h
        refine ⟨entry :: pre, entry', post, by rw [hsplit, List.cons_append], ?_⟩
        rwa [emailPassActs, World.acts_append]

theorem forAlert_of_email {v : World} {entry : Ident × DeviceMatch} {a : Act}
    (h : a ∈ emailActs alertId v entry) : a.forAlert alertId := by
  rcases mem_emailActs h with ⟨deviceId, sent, rfl, -⟩ | ⟨email, userId, rfl, -⟩
  · rfl
  · trivial

/-- A push of the wave is to a device under the string id of its owner. -/
theorem mem_pushPassActs {a : Act} (h : a ∈ pushPassActs E alertId wave ms w) :
    (∃ targets reason, a ∈ exclusionActs alertId targets reason) ∨
      ∃ e ∈ (userMatches ms).rows, ∃ device ∈ w.devices.rows,
        a = .push (pushData alertId e.2 device.id) ∧ e.1 = .str (toString device.user_id) ∧
          isReachable device = true ∧
            GuardsPass w alertId wave (isQuietHours (E.getHours w.now)) device.user_id := by
  rcases List.mem_append.1 h with h | h
  · obtain ⟨m, -, hm⟩ := List.mem_flatMap.1 h
    exact .inl (mem_tokenlessActs hm)
  · obtain ⟨e, he, ha⟩ := List.mem_flatMap.1 h
    rcases mem_pushActs ha with hexcluded | ⟨device, hmem, heq, hkey, hreach, hguards⟩
    · exact .inl hexcluded
    · exact .inr ⟨e, he, device, hmem, heq, hkey, hreach, hguards⟩

theorem waveActs_forAlert : ∀ a ∈ waveActs E alertId wave ms w, a.forAlert alertId := by
  intro a ha
  rcases List.mem_append.1 ha with ha | ha
  · rcases mem_pushPassActs ha with ⟨targets, reason, h⟩ | ⟨e, -, device, -, rfl, -⟩
    · exact forAlert_of_exclusion h
    · exact isPushFor_pushData e.2
  · split at ha
    · obtain ⟨pre, entry, post, -, hentry⟩ := mem_emailPassActs ha
      exact forAlert_of_email hentry
    · cases ha

theorem push_mem_waveActs {data : NotificationData}
    (h : Act.push data ∈ waveActs E alertId wave ms w) :
    ∃ e ∈ (userMatches ms).rows, ∃ device ∈ w.devices.rows,
      data = pushData alertId e.2 device.id ∧ e.1 = .str (toString device.user_id) ∧
        isReachable device = true ∧
          GuardsPass w alertId wave (isQuietHours (E.getHours w.now)) device.user_id := by
  rcases List.mem_append.1 h with h | h
  · rcases mem_pushPassActs h with ⟨targets, reason, hexcluded⟩ | ⟨e, he, device, hmem, heq, hrest⟩
    · obtain ⟨d, -, heq⟩ := List.mem_map.1 hexcluded
      cases heq
    · exact ⟨e, he, device, hmem, Act.push.inj heq, hrest⟩
  · split at h
    · obtain ⟨pre, entry, post, -, hentry⟩ := mem_emailPassActs h
      rcases mem_emailActs hentry with ⟨_, _, heq, -⟩ | ⟨_, _, heq, -⟩ <;> cases heq
    · cases h

end Wave

end FifiAlert
