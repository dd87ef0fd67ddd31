import FifiAlert.Notification.OnePush
import FifiAlert.Notification.StatusForward

/-!
# The status of a notification moves forward while nothing comes too late

The attempts of push jobs, the receipts and the openings, in any number and any interleaving and
with any calls failing. No write moves the status of a notification backwards if and only if
none comes after an event that precludes it, and the time of opening is kept if and only if each
opening came first or found the first. None of the writers looks at the status.
-/

namespace FifiAlert

open Concurrency Store ReceiptCall NotificationService NotificationQueueProcessor

section Protocol

variable {ι : Type*} [DecidableEq ι]

/-- The surroundings: time passes, and the others leave the notification as it stands. -/
def receiptSetting {ι : Type*} (id : ℕ) (fails : ReceiptCall → Prop) :
    Setting ι World ReceiptCall (ReceiptMark ι) where
  mark := receiptMark id
  env := fun w w' => w'.standing id = w.standing id
  mayFail := fails
  admits := fun _ _ _ => True

/-- The protocol of the writers of a notification. -/
def receiptProtocol (id : ℕ) (first : NotificationStatus) (fails : ReceiptCall → Prop) :
    Protocol (receiptSetting (ι := ι) id fails) where
  effect := ReceiptCall.effect
  permits := MayRecord id
  inv := StatusLedger id first
  inv_call := fun hinv hper _ => hinv.call hper
  inv_env := fun henv hinv => hinv.silent none nofun henv

variable {id : ℕ} {first : NotificationStatus} {fails : ReceiptCall → Prop} {i : ι}
  {s : ReceiptSnapshot ι}

theorem lasting_hasReadRow :
    (receiptProtocol id first fails).Lasting i (fun _ => false)
      fun s => ReceiptMark.read i ∈ s.marks :=
  .of_kept (fun _ _ _ _ _ _ h => Snapshot.mem_after_of_mem h) fun _ _ _ _ _ h => h

/-- An opening knows that the row has no other time of opening until another opening writes
one. -/
theorem lasting_openedThen (time : Time) :
    (receiptProtocol id first fails).Lasting i (ReceiptMark.isRead i)
      (KnownSince (ReceiptMark.isRead i) (ReceiptMark.opensOtherwise time)
        (OpenedThen id time)) := by
  refine .known (fun j l s hinv hper _ hgood h => ?_) (fun w w' m _ henv h status t hs => ?_)
    fun j l w m hm h => ?_
  · have hledger : StatusLedger id first s := hinv
    obtain ⟨status, t, hs⟩ := hledger.stands
    intro status' t' hs'
    rcases receipt_cases j hper.1 hs.standing with ⟨new, -, -, hstanding⟩ |
      ⟨time', «meta», -, hmark, hstanding⟩ | ⟨-, hstanding⟩
    · cases hstanding.symm.trans hs'
      exact h _ _ hs.standing
    · cases hstanding.symm.trans hs'
      have htime : time' = time := by simpa [ReceiptMark.opensOtherwise] using hgood _ hmark
      exact .inr (congrArg some htime)
    · cases hstanding.symm.trans hs'
      exact h _ _ hs.standing
  · exact h status t (henv.symm.trans hs)
  · exact (thread_receiptMark hm).symm.trans (ReceiptMark.thread_of_isRead h)

/-- What an opening of the notification has in hand when it writes the time. -/
def MayOpen (id id' : ℕ) (i : ι) (time : Time) (s : ReceiptSnapshot ι) : Prop :=
  id' = id → ReceiptMark.read i ∈ s.marks ∧
    KnownSince (ReceiptMark.isRead i) (ReceiptMark.opensOtherwise time) (OpenedThen id time) s

theorem lasting_mayOpen (id' : ℕ) (time : Time) :
    (receiptProtocol id first fails).Lasting i (fun m => false || ReceiptMark.isRead i m)
      (MayOpen id id' i time) :=
  (lasting_hasReadRow.and (lasting_openedThen time)).imp

end Protocol

section Threads

variable {ι : Type*} [DecidableEq ι] {id : ℕ} {first : NotificationStatus}
  {fails : ReceiptCall → Prop} {i : ι} {s : ReceiptSnapshot ι}

/-- What the calls besides the write of an opening do. -/
def IsReceipt (id : ℕ) (i : ι) (l : ReceiptCall) (next : World → World) : Prop :=
  next = l.effect ∧ (∀ s : ReceiptSnapshot ι, MayRecord id i l s) ∧
    ∀ w m, receiptMark id i l w = some m → m ≠ .read i

theorem isReceipt_of {l : ReceiptCall} (hl : l.RecordsOutcomes)
    (hopen : ∀ id time «meta», l ≠ notificationOpen id time «meta»)
    (hread : ∀ w : World, receiptMark id i l w ≠ some (.read i)) : IsReceipt id i l l.effect := by
  refine ⟨rfl, fun s => ⟨hl, fun time «meta» heq => absurd heq (hopen id time «meta»)⟩, ?_⟩
  rintro w m hm rfl
  exact hread w hm

theorem isReceipt_notification {l : NotificationCall}
    (hl : (ReceiptCall.notification l).RecordsOutcomes) :
    IsReceipt id i (.notification l) (ReceiptCall.notification l).effect := by
  refine isReceipt_of hl (fun _ _ _ h => by cases h) fun w hw => ?_
  cases l with
  | notificationUpdate id' data =>
      simp only [receiptMark] at hw
      split at hw
      · obtain ⟨n, -, hn⟩ := Option.map_eq_some_iff.1 hw
        cases hn
      · cases hw
  | _ => cases hw

theorem isReceipt_silent {l : NotificationCall} (hl : l.silent = true) :
    IsReceipt id i (.notification l) (ReceiptCall.notification l).effect := by
  refine isReceipt_notification fun id' data heq => ?_
  cases heq
  cases hl

theorem receiptNow_isReceipt : receiptNow.Confined (IsReceipt id i) fun _ => True :=
  ((silent_dateNow.confined fun _ hl => isReceipt_silent hl) :
    (LocationService.dateNow : NotificationProcess Time).Confined
      (fun l => IsReceipt id i (.notification l)) fun _ => True).relabel

theorem writeRow_isReceipt {l : ReceiptCall} (id' : ℕ) (hl : IsReceipt id i l l.effect) :
    (l.writeRow id').Confined (IsReceipt id i) fun _ => True :=
  Process.confined_atomic hl (fun _ _ _ => trivial) trivial

/-- The attempts and the receipts write outcomes, whatever the row says. -/
theorem push_isReceipt (P : PushEnv) (id' retries : ℕ) :
    ((withRetries retries (processPushNotification P id')).relabel
      ReceiptCall.notification).Confined (IsReceipt id i) fun _ => True := by
  refine Process.Confined.relabel (withRetries_confined ?_ retries)
  refine processPushNotification_confined P (fun l hl => isReceipt_silent hl) (fun data hdata => ?_)
    (fun deviceId date => ?_) fun push => ?_
  · refine isReceipt_notification fun id'' data' heq => ?_
    cases heq
    rcases hdata with h | h
    · simp [NotificationStatus.IsOutcome, h]
    · simp [NotificationStatus.IsOutcome, h]
  · exact isReceipt_notification fun _ _ h => by cases h
  · exact isReceipt_notification fun _ _ h => by cases h

theorem handleDeliveryReceipt_isReceipt (id' : ℕ) :
    (handleDeliveryReceipt id').Confined (IsReceipt id i) fun _ => True := by
  refine receiptNow_isReceipt.bind fun now => writeRow_isReceipt id' (isReceipt_of
    (fun _ _ h => by cases h) (fun _ _ _ h => by cases h) fun w hw => ?_)
  simp only [receiptMark] at hw
  split at hw
  · obtain ⟨n, -, hn⟩ := Option.map_eq_some_iff.1 hw
    cases hn
  · cases hw

theorem safe_of_isReceipt {α : Type} {p : ReceiptProcess α} {asks : ReceiptMark ι → Bool}
    {J : ReceiptSnapshot ι → Prop} (hJ : (receiptProtocol id first fails).Lasting i asks J)
    (hasks : ∀ m, asks m = true → m = .read i)
    (hp : p.Confined (IsReceipt id i) fun _ => True) (hs : J s) :
    Safe (receiptProtocol id first fails).contract i (fun _ s' => J s') p s := by
  refine Safe.mono (hJ.guarded hs (hp.mono ?_ fun _ h => h)) fun _ _ _ h => h.1
  rintro l next ⟨hnext, hper, hread⟩
  refine ⟨hnext, hper, fun w m hm => ?_⟩
  rw [Bool.eq_false_iff]
  exact fun ht => hread w m hm (hasks m ht)

theorem standing_of_notificationOf {w : World} {userId : ℕ} {notification : Notification}
    (h : w.notificationOf id userId = some notification) :
    w.standing id = some (notification.status, notification.opened_at) := by
  obtain ⟨hfind, -⟩ := Option.filter_eq_some_iff.1 h
  rw [World.standing, hfind, Option.map_some]

/-- The end of `recordOpening`, with the time of opening in hand. -/
theorem safe_writeOpening {id' : ℕ} {time : Time} (fields : Time → Js.Json)
    (h : MayOpen id id' i time s) :
    Safe (receiptProtocol id first fails).contract i (fun _ _ => True)
      (receiptNow >>= fun reportedAt =>
        (notificationOpen id' time (fields reportedAt)).writeRow id') s := by
  have hJ : (receiptProtocol id first fails).Lasting i _ _ := lasting_mayOpen id' time
  apply Safe.bind
  refine Safe.mono (safe_of_isReceipt hJ (fun m hm => ?_) receiptNow_isReceipt h) ?_
  · cases m with
    | read j => exact congrArg _ (of_decide_eq_true hm)
    | _ => cases hm
  · intro r s₁ _ hs₁
    cases r with
    | error e => trivial
    | ok reportedAt =>
        refine Protocol.safe_call rfl fun s₂ hr _ =>
          ⟨fun _ => ⟨⟨nofun, ?_⟩, fun _ => ?_⟩, fun _ => ?_⟩
        · intro time' «meta» heq
          cases heq
          exact hJ.stable hs₁ hr rfl
        · dsimp only
          split <;> exact fun _ _ _ => trivial
        · exact fun _ _ _ => trivial

/-- An opening writes the time it found, or it found none and writes any. -/
theorem safe_recordOpening (toISOString : Time → String) {id' : ℕ} (feedback : RelevanceFeedback)
    {notification : Notification}
    (h : ∀ time, notification.opened_at = none ∨ notification.opened_at = some time →
      MayOpen id id' i time s) :
    Safe (receiptProtocol id first fails).contract i (fun _ _ => True)
      (recordOpening toISOString id' feedback notification) s := by
  unfold recordOpening
  cases hopened : notification.opened_at with
  | some time => exact safe_writeOpening _ (h time (.inr hopened))
  | none =>
      have hJ : (receiptProtocol id first fails).Lasting i _ _ :=
        .all fun time => lasting_mayOpen id' time
      apply Safe.bind
      refine Safe.mono (safe_of_isReceipt hJ (fun m hm => ?_) receiptNow_isReceipt
        fun time => h time (.inl hopened)) ?_
      · cases m with
        | read j => exact congrArg _ (of_decide_eq_true hm)
        | _ => cases hm
      · intro r s₁ _ hs₁
        cases r with
        | error e => trivial
        | ok time => exact safe_writeOpening _ (hs₁ time)

theorem safe_recordRelevance (toISOString : Time → String) (id' userId : ℕ)
    (feedback : RelevanceFeedback) :
    Safe (receiptProtocol id first fails).contract i (fun _ _ => True)
      (recordRelevance toISOString id' userId feedback) s := by
  refine Protocol.Lasting.nothing.call_bind trivial (by rfl)
    (fun s₁ _ _ _ => ⟨nofun, fun _ _ h => by cases h⟩) (fun s₁ hinv _ => ?_) fun _ _ _ _ => trivial
  cases hfound : s₁.state.notificationOf id' userId with
  | none => exact Safe.raise fun _ _ _ => trivial
  | some notification =>
      refine safe_recordOpening toISOString feedback fun time htime hid => ⟨?_, .of ?_⟩
      · exact Snapshot.mem_after.2 (.inl (if_pos hid))
      · intro status t hs
        subst hid
        cases (standing_of_notificationOf hfound).symm.trans hs
        exact htime

theorem safe_notificationEvent (P : PushEnv) (toISOString : Time → String)
    (event : NotificationEvent) :
    Safe (receiptProtocol id first fails).contract i (fun _ _ => True)
      (event.process P toISOString) s := by
  have hnothing := Protocol.Lasting.nothing (P := receiptProtocol (ι := ι) id first fails) (i := i)
  cases event with
  | push id' retries =>
      exact Safe.mono (safe_of_isReceipt hnothing nofun (push_isReceipt P id' retries) trivial)
        fun _ _ _ _ => trivial
  | receipt id' =>
      exact Safe.mono (safe_of_isReceipt hnothing nofun
        (handleDeliveryReceipt_isReceipt id') trivial)
        fun _ _ _ _ => trivial
  | opening id' userId feedback => exact safe_recordRelevance toISOString id' userId feedback

end Threads

section Runs

variable {ι : Type*} {id : ℕ} {status : NotificationStatus} {t : Option Time} {i : ι}
  {s : ReceiptSnapshot ι}

/-- Since it stood so, the notification moved forward and kept its time of opening, as far as the
writes of the history did. -/
def Onwards (id : ℕ) (status : NotificationStatus) (t : Option Time)
    (s : ReceiptSnapshot ι) : Prop :=
  ∃ status' t', s.state.standing id = some (status', t') ∧
    (StatusForward s.marks → status.rank ≤ status'.rank) ∧
    (OpeningKept s.marks → ∀ time, t = some time → t' = some time)

theorem Onwards.call {l : ReceiptCall} (h : Onwards id status t s) (hl : l.RecordsOutcomes) :
    Onwards id status t (s.after (receiptMark id) i l l.effect) := by
  obtain ⟨status', t', hs, hforward, hkept⟩ := h
  rcases receipt_cases i hl hs with ⟨new, -, hmark, hstanding⟩ |
    ⟨time, «meta», -, hmark, hstanding⟩ | ⟨hsilent, hstanding⟩
  · unfold Snapshot.after
    rw [hmark]
    refine ⟨new, t', hstanding, fun hf => ?_, fun hk => hkept ((openingKept_cons nofun).1 hk)⟩
    obtain ⟨hle, hf⟩ := (statusForward_moved (m := .wrote i status' new) rfl).1 hf
    exact Nat.le_trans (hforward hf) hle
  · unfold Snapshot.after
    rw [hmark]
    refine ⟨.OPENED, some time, hstanding, fun hf => ?_, fun hk time' ht => ?_⟩
    · obtain ⟨hle, hf⟩ := (statusForward_moved (m := .opened i status' t' time) rfl).1 hf
      exact Nat.le_trans (hforward hf) hle
    · obtain ⟨hsame, hk⟩ := openingKept_opened.1 hk
      have hfound := hkept hk time' ht
      rcases hsame with rfl | rfl
      · cases hfound
      · exact hfound
  · refine ⟨status', t', hstanding, fun hf => hforward ?_, fun hk => hkept ?_⟩
    · exact fun m hm => hf m (Snapshot.mem_after_of_mem hm)
    · exact fun j old o time hm => hk j old o time (Snapshot.mem_after_of_mem hm)

end Runs

/-- In every run of the writers of a notification: no write moved the status backwards if and
only if each was recorded in time, and the time of opening was kept if and only if each opening
came first or found the first. Then from one state of the run to a later one the status does not
go backwards, and a time of opening stays. -/
theorem notificationStatus_forward_iff {ι : Type*} [DecidableEq ι] (P : PushEnv)
    (toISOString : Time → String) (fails : ReceiptCall → Prop) (w₀ : World) (id : ℕ)
    (first : NotificationStatus) (t₀ : Option Time) (h₀ : w₀.standing id = some (first, t₀))
    (events : ι → NotificationEvent)
    {c c' : Config ι World ReceiptCall AppError Unit (ReceiptMark ι)}
    (h : Reaches (receiptSetting id fails)
      (Config.init w₀ fun i => (events i).process P toISOString) c)
    (h' : Reaches (receiptSetting id fails) c c') :
    (StatusForward c'.marks ↔ InOrder first c'.marks) ∧
      (OpeningKept c'.marks ↔ EachFirst c'.marks) ∧
      ∃ status t status' t', c.state.standing id = some (status, t) ∧
        c'.state.standing id = some (status', t') ∧
        (InOrder first c'.marks → status.rank ≤ status'.rank) ∧
        (EachFirst c'.marks → ∀ time, t = some time → t' = some time) := by
  have hsound : Sound (receiptProtocol id first fails).contract (fun _ _ _ => True)
      (Config.init w₀ fun i => (events i).process P toISOString) :=
    ⟨StatusLedger.init h₀, fun i => safe_notificationEvent P toISOString (events i)⟩
  have hc := hsound.reaches h
  have hledger : StatusLedger id first c.toSnapshot := hc.1
  have hledger' : StatusLedger id first c'.toSnapshot := (hc.reaches h').1
  obtain ⟨status, t, hs⟩ := hledger.stands
  have honwards : Onwards id status t c'.toSnapshot := by
    refine (Protocol.refines hc h').invariant (J := Onwards id status t)
      ⟨status, t, hs.standing, fun _ => Nat.le_refl _, fun _ _ ht => ht⟩ ?_ ?_
    · intro i l s _ hper _ hJ
      have hmay : MayRecord id i l s := hper
      exact hJ.call hmay.1
    · rintro w w' m _ henv ⟨status', t', hs', hrest⟩
      exact ⟨status', t', henv.trans hs', hrest⟩
  obtain ⟨status', t', hs', hforward, hkept⟩ := honwards
  exact ⟨hledger'.forward_iff, hledger'.kept_iff, status, t, status', t', hs.standing, hs',
    fun hin => hforward (hledger'.forward_iff.2 hin), fun he => hkept (hledger'.kept_iff.2 he)⟩

section Runs

/-- A notification on the device of user 2 in `zoneWorld` is in the queue. -/
def queuedWorld : World :=
  { zoneWorld with
    notifications := Serial.empty.create (fun id =>
      { id, alert_id := 7, device_id := 20, confidence := .HIGH, match_reason := "GPS" })
      fun _ => rfl }

/-- The push, the receipt and the opening of the notification. -/
def lifeOf (i : Fin 3) : NotificationEvent :=
  match i with
  | 0 => .push 0 0
  | 1 => .receipt 0
  | 2 => .opening 0 2 { inRange := true }

def receiptPool : Config (Fin 3) World ReceiptCall AppError Unit (ReceiptMark (Fin 3)) :=
  Config.init queuedWorld fun i =>
    (lifeOf i).process openPush fun _ => "1970-01-01T00:00:00.000Z"

theorem standing_queuedWorld : queuedWorld.standing 0 = some (.QUEUED, none) := by
  decide +kernel

/-- One after the other: the notification is sent, delivered and opened. -/
theorem notificationStatus_forward_iff_inOrder :
    StatusForward (receiptPool.schedule (receiptMark 0) [0, 0, 0, 0, 1, 1, 2, 2, 2, 2]).marks ∧
      OpeningKept (receiptPool.schedule (receiptMark 0) [0, 0, 0, 0, 1, 1, 2, 2, 2, 2]).marks ∧
      (receiptPool.schedule (receiptMark 0) [0, 0, 0, 0, 1, 1, 2, 2, 2, 2]).state.standing 0 =
        some (.OPENED, some 0) := by
  have hreach : Reaches (receiptSetting 0 fun _ => False) receiptPool
      (receiptPool.schedule (receiptMark 0) [0, 0, 0, 0, 1, 1, 2, 2, 2, 2]) :=
    Reaches.schedule (fun _ _ _ => trivial) _ _
  have hiff := notificationStatus_forward_iff openPush (fun _ => "1970-01-01T00:00:00.000Z")
    (fun _ => False) queuedWorld 0 .QUEUED none standing_queuedWorld lifeOf hreach .refl
  exact ⟨hiff.1.2 (by decide +kernel), hiff.2.1.2 (by decide +kernel), by decide +kernel⟩

/-- The receipt comes after the opening: the notification goes from opened to delivered. -/
theorem notificationStatus_goesBack :
    ∃ c c', Reaches (receiptSetting 0 fun _ => False) receiptPool c ∧
      Reaches (receiptSetting 0 fun _ => False) c c' ∧
      c.state.standing 0 = some (.OPENED, some 0) ∧
      c'.state.standing 0 = some (.DELIVERED, some 0) := by
  refine ⟨receiptPool.schedule (receiptMark 0) [0, 0, 0, 0, 2, 2, 2, 2],
    (receiptPool.schedule (receiptMark 0) [0, 0, 0, 0, 2, 2, 2, 2]).schedule (receiptMark 0) [1, 1],
    Reaches.schedule (fun _ _ _ => trivial) _ _, Reaches.schedule (fun _ _ _ => trivial) _ _,
    by decide +kernel, by decide +kernel⟩

end Runs

end FifiAlert
