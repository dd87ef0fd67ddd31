import FifiAlert.Concurrency.Since
import FifiAlert.Notification.WaveRetry

/-!
# The daily cap

A wave counts what a user got in the last 24 hours and then pushes to each of their reachable
devices. In any sequence of waves, no push takes a user past the cap of its tier while every user
whom the count lets through has room for all their devices. The count is not repeated between
the devices.
-/

namespace FifiAlert

open Concurrency Store Js LocationService NotificationCall NotificationQueueProcessor

/-- How many notifications the user got since then. Exclusions do not count. -/
def World.received (w : World) (userId : ℕ) (since : Time) : ℕ :=
  w.notifications.count fun n =>
    !n.excluded && since ≤ n.queued_at && w.ownerOf n = some userId

theorem overDailyCap_eq (w : World) (userId : ℕ) (since : Time) (wave : NotificationConfidence) :
    overDailyCap w userId since wave =
      decide (DAILY_CAP_BY_CONFIDENCE wave ≤ w.received userId since) := rfl

/-- The notable calls of a wave: the count for a user who has so many reachable devices, and a
push that leaves the user with so many notifications of the last 24 hours. -/
inductive CapMark where
  | checked (tier : NotificationConfidence) (userId count devices : ℕ)
  | pushed (tier : NotificationConfidence) (userId count : ℕ)
  deriving DecidableEq

abbrev CapSnapshot := Snapshot World CapMark

/-- The row of a push that is created, with its owner. -/
def World.pushedOwner (w : World) (data : NotificationData) : Option ℕ :=
  if w.takesNotification data && (data.toRow 0 0).isPush then
    (w.devices.find? data.device_id).map Device.user_id
  else none

def capMark (tier : NotificationConfidence) (l : NotificationCall) (w : World) : Option CapMark :=
  match l with
  | notificationCount userId since =>
    some (.checked tier userId (w.received userId since) (reachableDevices w [userId]).length)
  | notificationCreate data =>
    (w.pushedOwner data).map fun userId =>
      .pushed tier userId ((w.createNotification data).received userId (w.now - MS_PER_DAY))
  | _ => none

namespace CapMark

/-- A user whom the count lets through has room for all their devices. -/
def HasRoom : CapMark → Prop
  | checked tier _ count devices =>
    count < DAILY_CAP_BY_CONFIDENCE tier → count + devices ≤ DAILY_CAP_BY_CONFIDENCE tier
  | pushed _ _ _ => True

/-- The push stays within the cap. -/
def UnderCap : CapMark → Prop
  | checked _ _ _ _ => True
  | pushed tier _ count => count ≤ DAILY_CAP_BY_CONFIDENCE tier

instance : DecidablePred HasRoom
  | checked tier _ count devices => inferInstanceAs (Decidable (count <
      DAILY_CAP_BY_CONFIDENCE tier → count + devices ≤ DAILY_CAP_BY_CONFIDENCE tier))
  | pushed _ _ _ => inferInstanceAs (Decidable True)

end CapMark

/-- Whenever the count let a user through, there was room for all their devices. -/
def EachHasRoom (marks : List CapMark) : Prop := ∀ m ∈ marks, m.HasRoom

/-- No push took its user past the cap of its tier. -/
def CapKept (marks : List CapMark) : Prop := ∀ m ∈ marks, m.UnderCap

section Received

variable {w w' : World} {userId : ℕ} {since since' : Time}

theorem received_anti (h : since ≤ since') :
    w.received userId since' ≤ w.received userId since := by
  refine List.countP_mono_left fun n _ hn => ?_
  simp only [Bool.and_eq_true, decide_eq_true_eq] at hn ⊢
  exact ⟨⟨hn.1.1, Int.le_trans h hn.1.2⟩, hn.2⟩

theorem received_createNotification_le (w : World) (data : NotificationData) (userId : ℕ)
    (since : Time) :
    (w.createNotification data).received userId since ≤ w.received userId since + 1 := by
  simp only [World.received, Table.count, World.createNotification, Serial.rows_create,
    List.countP_append]
  exact Nat.add_le_add_left List.countP_le_length _

theorem reachableDevices_congr (h : w'.devices = w.devices) (userIds : List ℕ) :
    reachableDevices w' userIds = reachableDevices w userIds := by
  rw [reachableDevices, reachableDevices, h]

/-- Under an id there are no more targets than reachable devices of its user. -/
theorem length_targets_le (w : World) (userIds : List ℕ) (userId : ℕ) :
    (((devicesByUser (reachableDevices w userIds)).get (.str (toString userId))).getD []).length ≤
      (reachableDevices w [userId]).length := by
  rw [devicesByUser, Assoc.get_groupBy, List.length_map]
  simp only [reachableDevices, Table.findMany, List.filter_filter, ← List.countP_eq_length_filter]
  refine List.countP_mono_left fun device _ hdevice => ?_
  simp only [Bool.and_eq_true, decide_eq_true_eq] at hdevice ⊢
  have howner : device.user_id = userId := str_toString_inj.1 hdevice.1
  exact ⟨by simp [howner], hdevice.2.2⟩

end Received

/-- Between two calls of a wave time passes, and no other row comes in. -/
structure NoRowsCome (w w' : World) : Prop where
  now : w.now ≤ w'.now
  devices : w'.devices = w.devices
  received : ∀ userId since, w'.received userId since ≤ w.received userId since

/-- The surroundings of a single wave; its calls may fail. -/
def capSetting (tier : NotificationConfidence) (fails : NotificationCall → Prop) :
    Setting Unit World NotificationCall CapMark where
  mark := fun _ => capMark tier
  env := NoRowsCome
  mayFail := fails
  admits := fun _ _ _ => True

/-- The protocol of a wave: a push stays within the cap, if there was room. -/
def capProtocol (tier : NotificationConfidence) (fails : NotificationCall → Prop) :
    Protocol (capSetting tier fails) where
  effect := NotificationCall.effect
  permits := fun _ l s =>
    ∀ m, capMark tier l s.state = some m → EachHasRoom s.marks → m.UnderCap
  inv := fun s => EachHasRoom s.marks → CapKept s.marks
  inv_call := by
    intro i l s hinv hper _ hroom m hm
    have hroom' : EachHasRoom s.marks := fun m' hm' => hroom m' (Snapshot.mem_after_of_mem hm')
    rcases Snapshot.mem_after.1 hm with hm | hm
    · exact hper m hm hroom'
    · exact hinv hroom' m hm
  inv_env := fun _ hinv => hinv

section Wave

variable {tier : NotificationConfidence} {fails : NotificationCall → Prop} {s : CapSnapshot}
  {w : World} {alertId user d k : ℕ}

/-- Nobody else makes calls, so what the surroundings keep stays. -/
theorem stable_alone {J : CapSnapshot → Prop}
    (henv : ∀ w w' m, NoRowsCome w w' → J ⟨w, m⟩ → J ⟨w', m⟩) {s s' : CapSnapshot} (hs : J s)
    (hr : Relation.ReflTransGen ((capProtocol tier fails).Interference ()) s s') : J s' :=
  Protocol.stable (fun j _ _ hne => absurd (Subsingleton.elim j ()) hne)
    (fun w w' m _ h => henv w w' m h) hr hs

theorem keeps_devices (s s' : CapSnapshot) (hs : s.state.devices = w.devices)
    (hr : Relation.ReflTransGen ((capProtocol tier fails).Interference ()) s s') :
    s'.state.devices = w.devices :=
  stable_alone (J := fun s => s.state.devices = w.devices) (fun _ _ _ h hd => h.devices.trans hd)
    hs hr

/-- The silent parts push to nobody. -/
theorem safe_silent {α : Type} {p : NotificationProcess α} (hp : Silent p)
    (hs : s.state.devices = w.devices) :
    Safe (capProtocol tier fails).contract () (fun _ s' => s'.state.devices = w.devices) p s := by
  refine Safe.mono (Protocol.safe_of_guarded (J := fun s => s.state.devices = w.devices)
    (hp.mono ?_ fun _ h => h) keeps_devices hs) fun _ _ _ h => h.1
  rintro l next ⟨hnext, hsilent⟩
  refine ⟨hnext, fun s₁ _ _ h₁ => ⟨fun m hm _ => ?_,
    (addsJobs_of_silent hsilent _).devices.trans h₁⟩⟩
  cases l with
  | notificationCreate data =>
      have hrow : (data.toRow 0 0).isPush = false := by
        simpa [NotificationCall.silent] using hsilent
      simp [capMark, World.pushedOwner, hrow] at hm
  | notificationCount userId since =>
      cases hm
      trivial
  | _ => cases hm

/-- The wave is about to push to a user of `d` devices, and has pushed to `k` of them. -/
structure Pushing (tier : NotificationConfidence) (w : World) (user d k : ℕ) (s : CapSnapshot) :
    Prop where
  devices : s.state.devices = w.devices
  counted : ∃ n since, (EachHasRoom s.marks → n + d ≤ DAILY_CAP_BY_CONFIDENCE tier) ∧
    since ≤ s.state.now - MS_PER_DAY ∧ s.state.received user since ≤ n + k

theorem keeps_pushing (s s' : CapSnapshot) (hs : Pushing tier w user d k s)
    (hr : Relation.ReflTransGen ((capProtocol tier fails).Interference ()) s s') :
    Pushing tier w user d k s' := by
  refine stable_alone (J := Pushing tier w user d k) (fun v v' m h hd => ?_) hs hr
  obtain ⟨n, since, hroom, hsince, hreceived⟩ := hd.counted
  exact ⟨h.devices.trans hd.devices, n, since, hroom,
    Int.le_trans hsince (Int.sub_le_sub_right h.now _),
    Nat.le_trans (h.received user since) hreceived⟩

/-- One more push, while there are devices left. -/
theorem safe_pushOnce {m : DeviceMatch} {deviceId : ℕ} (hlt : k + 1 ≤ d)
    (howner : ∀ device, w.devices.find? deviceId = some device → device.user_id = user)
    (hs : Pushing tier w user d k s) :
    Safe (capProtocol tier fails).contract () (fun r s' => match r with
      | .ok _ => Pushing tier w user d (k + 1) s'
      | .error _ => True) (queuePush alertId m deviceId) s := by
  unfold queuePush
  refine Protocol.safe_call rfl fun s₁ hr _ => ?_
  obtain ⟨hdevices, n, since, hroom, hsince, hreceived⟩ := keeps_pushing s s₁ hs hr
  have hcount : (s₁.state.createNotification (pushData alertId m deviceId)).received user since ≤
      n + (k + 1) :=
    Nat.le_trans (received_createNotification_le _ _ user since) (Nat.succ_le_succ hreceived)
  refine ⟨fun _ => ⟨fun mark hmark hmarks => ?_, fun _ => ?_⟩, fun _ => fun _ _ _ => trivial⟩
  · obtain ⟨userId, hpushed, rfl⟩ := Option.map_eq_some_iff.1 hmark
    obtain rfl : userId = user := by
      unfold World.pushedOwner at hpushed
      split at hpushed
      · obtain ⟨device, hfind, rfl⟩ := Option.map_eq_some_iff.1 hpushed
        exact howner device (hdevices ▸ hfind)
      · cases hpushed
    exact Nat.le_trans (Nat.le_trans (received_anti hsince) hcount)
      (Nat.le_trans (Nat.add_le_add_left hlt n) (hroom hmarks))
  · have hs₂ : Pushing tier w user d (k + 1) (s₁.after (fun _ => capMark tier) ()
        (.notificationCreate (pushData alertId m deviceId))
        (notificationCreate (pushData alertId m deviceId)).effect) := by
      have hmarks : ∀ marks : List CapMark,
          EachHasRoom (marks ++ s₁.marks) → EachHasRoom s₁.marks :=
        fun marks h mark hmem => h mark (List.mem_append_right _ hmem)
      cases htakes : s₁.state.takesNotification (pushData alertId m deviceId) with
      | true =>
          have heffect : (notificationCreate (pushData alertId m deviceId)).effect s₁.state =
              s₁.state.createNotification (pushData alertId m deviceId) := if_pos htakes
          refine ⟨?_, n, since, fun h => hroom (hmarks _ h), ?_, ?_⟩
          · rw [Snapshot.state_after, heffect]
            exact hdevices
          · rw [Snapshot.state_after, heffect]
            exact hsince
          · rw [Snapshot.state_after, heffect]
            exact hcount
      | false =>
          have heffect : (notificationCreate (pushData alertId m deviceId)).effect s₁.state =
              s₁.state := if_neg (by simp [htakes])
          refine ⟨?_, n, since, fun h => hroom (hmarks _ h), ?_, ?_⟩
          · rw [Snapshot.state_after, heffect]
            exact hdevices
          · rw [Snapshot.state_after, heffect]
            exact hsince
          · rw [Snapshot.state_after, heffect]
            exact Nat.le_succ_of_le hreceived
    dsimp only
    cases s₁.state.takesNotification (pushData alertId m deviceId) with
    | false => exact fun _ _ _ => trivial
    | true =>
        refine Protocol.safe_call rfl fun s₃ hr₃ _ => ?_
        have hs₃ := keeps_pushing _ s₃ hs₂ hr₃
        refine ⟨fun _ => ⟨fun _ hm => (by cases hm), fun _ => ?_⟩, fun _ => fun _ _ _ => trivial⟩
        have hs₄ : Pushing tier w user d (k + 1) (s₃.after (fun _ => capMark tier) ()
            (.queueAdd (.sendPushNotification s₁.state.notifications.next))
            (queueAdd (.sendPushNotification s₁.state.notifications.next)).effect) :=
          ⟨hs₃.devices, hs₃.counted⟩
        exact fun s₄ hr₄ _ => keeps_pushing _ s₄ hs₄ hr₄

/-- The pushes to the devices of a user, one after the other. -/
theorem safe_pushAll {m : DeviceMatch} {targets : List ℕ} (hlen : k + targets.length ≤ d)
    (howner : ∀ t ∈ targets, ∀ device, w.devices.find? t = some device → device.user_id = user)
    (hs : Pushing tier w user d k s) :
    Safe (capProtocol tier fails).contract () (OnReturn fun _ s' => s'.state.devices = w.devices)
      (Process.forEach targets (queuePush alertId m)) s := by
  induction targets generalizing k s with
  | nil => exact fun s' hr _ => keeps_devices s s' hs.devices hr
  | cons t targets ih =>
      rw [List.length_cons] at hlen
      apply Safe.bind
      refine Safe.mono (safe_pushOnce (by omega) (howner t List.mem_cons_self) hs) ?_
      intro r s₁ _ hs₁
      cases r with
      | error e => trivial
      | ok _ => exact ih (by omega) (fun t' ht => howner t' (List.mem_cons_of_mem t ht)) hs₁

/-- A user whom the count lets through may be pushed to. -/
theorem safe_isOverDailyCap {userId : Ident} (huser : userId.parseInt = some user)
    (hs : s.state.devices = w.devices) :
    Safe (capProtocol tier fails).contract () (OnReturn fun capped s' =>
      s'.state.devices = w.devices ∧
        (capped = false → Pushing tier w user (reachableDevices w [user]).length 0 s'))
      (isOverDailyCap userId tier) s := by
  unfold isOverDailyCap
  refine Protocol.safe_call rfl fun s₁ hr _ => ⟨fun _ => ⟨fun _ h => (by cases h), fun _ => ?_⟩,
    fun _ => fun _ _ _ => trivial⟩
  have hs₁ : s₁.state.devices = w.devices ∧ s₁.state.now ≤ s₁.state.now :=
    ⟨keeps_devices s s₁ hs hr, Int.le_refl _⟩
  dsimp only [numericId]
  rw [huser]
  refine Protocol.safe_call rfl fun s₂ hr₂ _ => ?_
  obtain ⟨hdevices, hnow⟩ : s₂.state.devices = w.devices ∧ s₁.state.now ≤ s₂.state.now :=
    stable_alone (J := fun s => s.state.devices = w.devices ∧ s₁.state.now ≤ s.state.now)
      (fun _ _ _ h hd => ⟨h.devices.trans hd.1, Int.le_trans hd.2 h.now⟩) hs₁ hr₂
  refine ⟨fun _ => ⟨fun m hm _ => ?_, fun _ => ?_⟩, fun _ => fun _ _ _ => trivial⟩
  · cases hm
    trivial
  · have hafter : (s₂.after (fun _ => capMark tier) ()
        (.notificationCount user (s₁.state.now - MS_PER_DAY)) id).state.devices = w.devices :=
      hdevices
    refine fun s₃ hr₃ _ => ⟨keeps_devices _ s₃ hafter hr₃, fun hcapped => ?_⟩
    refine keeps_pushing _ s₃ ⟨hafter, _, s₁.state.now - MS_PER_DAY, fun hroom => ?_,
      Int.sub_le_sub_right hnow _, Nat.le_refl _⟩ hr₃
    have hbelow := (overDailyCap_eq _ _ _ _).symm.trans hcapped
    rw [decide_eq_false_iff_not, Nat.not_le] at hbelow
    have hchecked := hroom _ (Snapshot.mem_after.2 (.inl rfl)) hbelow
    rw [reachableDevices_congr hdevices] at hchecked
    exact hchecked

theorem safe_silently {α : Type} {p : NotificationProcess α} (hp : Silent p)
    (hs : s.state.devices = w.devices) :
    Safe (capProtocol tier fails).contract () (OnReturn fun _ s' => s'.state.devices = w.devices)
      p s := by
  refine Safe.mono (safe_silent hp hs) fun r s' _ hs' => ?_
  cases r with
  | ok _ => exact hs'
  | error e => trivial

theorem safe_pushTargets {inQuietHours : Bool} {targets : List ℕ} {userId : Ident}
    {m : DeviceMatch} (user : ℕ) (huser : userId.parseInt = some user)
    (hlen : targets.length ≤ (reachableDevices w [user]).length)
    (howner : ∀ t ∈ targets, ∀ device, w.devices.find? t = some device → device.user_id = user)
    (hs : s.state.devices = w.devices) :
    Safe (capProtocol tier fails).contract () (OnReturn fun _ s' => s'.state.devices = w.devices)
      (pushTargets alertId tier inQuietHours targets userId m) s := by
  unfold pushTargets
  split
  · exact safe_silently (silent_excludeAll _ _) hs
  apply Protocol.safe_onReturn_bind (safe_silently (silent_hasBeenNotified _ _) hs)
  intro notified s₁ _ hs₁
  cases notified with
  | true => exact safe_silently (silent_excludeAll _ _) hs₁
  | false =>
      apply Protocol.safe_onReturn_bind (safe_isOverDailyCap huser hs₁)
      intro capped s₂ _ hs₂
      cases capped with
      | true => exact safe_silently (silent_excludeAll _ _) hs₂.1
      | false => exact safe_pushAll (by rw [Nat.zero_add]; exact hlen) howner (hs₂.2 rfl)

theorem safe_pushUser {inQuietHours : Bool} {userIds : List ℕ} {entry : Ident × DeviceMatch}
    (hs : s.state.devices = w.devices) :
    Safe (capProtocol tier fails).contract () (OnReturn fun _ s' => s'.state.devices = w.devices)
      (pushUser alertId tier inQuietHours (devicesByUser (reachableDevices w userIds))
        entry) s := by
  unfold pushUser
  dsimp only
  cases htargets : ((devicesByUser (reachableDevices w userIds)).get entry.1).getD [] with
  | nil => exact safe_silently (silent_recordUnreachable _) hs
  | cons t targets =>
      have hmem : ∀ t' ∈ t :: targets, ∃ device ∈ w.devices.rows, device.id = t' ∧
          entry.1 = .str (toString device.user_id) := by
        rw [← htargets]
        intro t' ht'
        obtain ⟨device, hrow, hid, -, -, hkey⟩ := mem_targets_iff.1 ht'
        exact ⟨device, hrow, hid, hkey⟩
      obtain ⟨owned, -, -, hkey⟩ := hmem t List.mem_cons_self
      have hlen := length_targets_le w userIds owned.user_id
      rw [← hkey, htargets] at hlen
      refine safe_pushTargets owned.user_id ?_ hlen ?_ hs
      · rw [hkey]
        exact IntegerColumns.parseInt_read .string owned.user_id
      · intro t' ht' device hfind
        obtain ⟨device', hrow, hid, hkey'⟩ := hmem t' ht'
        have hfind' := Table.find?_of_mem hrow
        rw [hid, hfind] at hfind'
        cases hfind'
        exact str_toString_inj.1 (hkey'.symm.trans hkey)

theorem safe_notifyMatches (E : NotificationEnv) (ms : List DeviceMatch) :
    Safe (capProtocol tier fails).contract () (OnReturn fun _ _ => True)
      (notifyMatches E alertId tier ms) s := by
  have hfind : ∀ s : CapSnapshot, Safe (capProtocol tier fails).contract ()
      (OnReturn fun devices s' => ∃ w,
        devices = reachableDevices w (userIdsOf (userMatches ms).rows) ∧
        s'.state.devices = w.devices)
      (findReachableDevices (userIdsOf (userMatches ms).rows)) s := by
    intro s
    unfold findReachableDevices
    split
    next hnone =>
        have hempty : reachableDevices s.state (userIdsOf (userMatches ms).rows) = [] := by
          simp [reachableDevices, Table.findMany, List.isEmpty_iff.1 hnone]
        exact fun s' hr _ => ⟨s.state, hempty.symm, keeps_devices s s' rfl hr⟩
    next =>
        refine Protocol.safe_call rfl fun s₁ _ _ =>
          ⟨fun _ => ⟨fun _ h => (by cases h), fun _ => ?_⟩, fun _ => fun _ _ _ => trivial⟩
        exact fun s' hr _ => ⟨s₁.state, rfl, keeps_devices _ s' rfl hr⟩
  unfold notifyMatches
  dsimp only
  apply Protocol.safe_onReturn_bind (safe_silently (w := s.state) silent_dateNow rfl)
  intro now s₁ _ _
  apply Protocol.safe_onReturn_bind (hfind s₁)
  rintro devices s₂ - ⟨w, rfl, hs₂⟩
  have htokenless : Silent (Process.forEach ms (recordTokenless alertId)) :=
    Process.Confined.forEach fun m _ => silent_recordTokenless m
  apply Protocol.safe_onReturn_bind (safe_silently htokenless hs₂)
  intro _ s₃ _ hs₃
  have hpushes : Safe (capProtocol tier fails).contract ()
      (OnReturn fun _ s' => s'.state.devices = w.devices)
      (Process.forEach (userMatches ms).rows (pushUser alertId tier (isQuietHours (E.getHours now))
        (devicesByUser (reachableDevices w (userIdsOf (userMatches ms).rows))))) s₃ := by
    refine Safe.forEach (fun s => s.state.devices = w.devices) hs₃
      (fun s s' hs hr _ => keeps_devices s s' hs hr) (fun entry _ s hs => ?_) fun _ hs _ => hs
    refine Safe.mono (safe_pushUser hs) fun r s' _ hr => ?_
    cases r with
    | ok _ => exact hr
    | error e => trivial
  apply Protocol.safe_onReturn_bind hpushes
  intro _ s₄ _ hs₄
  have hemails : Silent (if tier = .HIGH then
      Process.forEach (userMatches ms).rows (emailUser alertId) else return ()) := by
    split
    · exact Process.Confined.forEach fun entry _ => silent_emailUser entry
    · trivial
  refine Safe.mono (safe_silently hemails hs₄) fun r _ _ _ => ?_
  cases r with
  | ok _ => trivial
  | error e => trivial

theorem safe_wave (E : NotificationEnv) (wave? : Option NotificationConfidence)
    (htier : wave?.getD .HIGH = tier) :
    Safe (capProtocol tier fails).contract () (fun _ _ => True)
      (processAlertNotifications E alertId wave?) s := by
  suffices h : Safe (capProtocol tier fails).contract () (OnReturn fun _ _ => True)
      (processAlertNotifications E alertId wave?) s from Safe.mono h fun _ _ _ _ => trivial
  have hread : Silent (read (.location (.alertFindUnique alertId)) fun w =>
      w.alerts.find? alertId) := silent_read rfl rfl
  unfold processAlertNotifications
  apply Protocol.safe_onReturn_bind (safe_silently (w := s.state) hread rfl)
  intro found s₁ _ hs₁
  cases found with
  | none => exact fun _ _ _ => trivial
  | some alert =>
      dsimp only
      split
      · exact fun _ _ _ => trivial
      apply Protocol.safe_onReturn_bind (safe_silently (silent_findDevicesForAlert _ _) hs₁)
      intro allMatches s₂ _ _
      rw [htier]
      exact safe_notifyMatches E _

/-- In every run of one wave, from any state: while whoever the count lets through has room, no
push takes its user past the cap. -/
theorem capKept_of_wave (E : NotificationEnv) (alertId : ℕ) (wave? : Option NotificationConfidence)
    (w : World) {c : Config Unit World NotificationCall AppError Unit CapMark}
    (h : Reaches (capSetting (wave?.getD .HIGH) fails)
      (Config.init w fun _ => processAlertNotifications E alertId wave?) c)
    (hroom : EachHasRoom c.marks) : CapKept c.marks := by
  have hsound : Sound (capProtocol (wave?.getD .HIGH) fails).contract (fun _ _ _ => True)
      (Config.init w fun _ => processAlertNotifications E alertId wave?) :=
    ⟨fun _ _ hm => (by cases hm), fun _ => safe_wave E wave? rfl⟩
  exact (hsound.reaches h).1 hroom

end Wave

/-- Waves that are processed one after the other, each up to any of its calls. Between two waves
anything may happen. -/
inductive WavesRun (E : NotificationEnv) (fails : NotificationCall → Prop) :
    World → List CapMark → Prop where
  | start (w : World) : WavesRun E fails w []
  | between {w : World} {marks : List CapMark} (w' : World) (h : WavesRun E fails w marks) :
      WavesRun E fails w' marks
  | wave {w : World} {marks : List CapMark} (h : WavesRun E fails w marks) (alertId : ℕ)
      (wave? : Option NotificationConfidence)
      {c : Config Unit World NotificationCall AppError Unit CapMark}
      (hc : Reaches (capSetting (wave?.getD .HIGH) fails)
        (Config.init w fun _ => processAlertNotifications E alertId wave?) c) :
      WavesRun E fails c.state (c.marks ++ marks)

/-- In every sequence of waves: no push takes its user past the cap of the tier, when every user
whom the count let through had room for all their devices. -/
theorem dailyCap_kept (E : NotificationEnv) (fails : NotificationCall → Prop) {w : World}
    {marks : List CapMark} (h : WavesRun E fails w marks) (hroom : EachHasRoom marks) :
    CapKept marks := by
  induction h with
  | start w => exact fun _ hm => by cases hm
  | between w' _ ih => exact ih hroom
  | @wave w marks _ alertId wave? c hc ih =>
      intro m hm
      rcases List.mem_append.1 hm with hm | hm
      · exact capKept_of_wave E alertId wave? w hc
          (fun m' hm' => hroom m' (List.mem_append_left _ hm')) m hm
      · exact ih (fun m' hm' => hroom m' (List.mem_append_right _ hm')) m hm

/-- The first wave of alert 7, in a run of so many calls. -/
def firstWave (w : World) (calls : ℕ) : Config Unit World NotificationCall AppError Unit CapMark :=
  (Config.init w fun _ : Unit => processAlertNotifications flatEnv 7 none).schedule
    (fun _ => capMark .HIGH) (List.replicate calls ())

theorem wavesRun_firstWave (w : World) (calls : ℕ) :
    WavesRun flatEnv (fun _ => False) (firstWave w calls).state
      ((firstWave w calls).marks ++ []) :=
  .wave (.start w) 7 none (Reaches.schedule (fun _ _ _ => trivial) _ _)

/-- User 2 of `zoneWorld` has one device, and is pushed to once. -/
theorem dailyCap_kept_zone :
    CapKept ((firstWave zoneWorld 40).marks ++ []) ∧
      .pushed .HIGH 2 1 ∈ (firstWave zoneWorld 40).marks := by
  have hroom : EachHasRoom ((firstWave zoneWorld 40).marks ++ []) := by
    unfold EachHasRoom
    decide +kernel
  exact ⟨dailyCap_kept flatEnv (fun _ => False) (wavesRun_firstWave zoneWorld 40) hroom,
    by decide +kernel⟩

/-- User 2 of `zoneWorld` with eleven devices. -/
def manyDevicesWorld : World :=
  { zoneWorld with
    devices := (List.range 11).foldl (fun devices i =>
      devices.insertNew { id := 20 + i, user_id := 2, push_token := some "token" }) Table.empty }

/-- The user got nothing yet, and is pushed to eleven times in one wave whose cap is ten. -/
theorem dailyCap_exceeded :
    ∃ w marks, WavesRun flatEnv (fun _ => False) w marks ∧ .pushed .HIGH 2 11 ∈ marks ∧
      ¬ CapKept marks := by
  have hpushed : .pushed .HIGH 2 11 ∈ (firstWave manyDevicesWorld 60).marks ++ [] := by
    decide +kernel
  refine ⟨_, _, wavesRun_firstWave manyDevicesWorld 60, hpushed, fun hkept => ?_⟩
  have hcap : 11 ≤ DAILY_CAP_BY_CONFIDENCE .HIGH := hkept _ hpushed
  exact absurd hcap (by decide)

end FifiAlert
