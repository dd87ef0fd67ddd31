import FifiAlert.Invitation.FinalInvitation
import FifiAlert.Invitation.SendProtocol
import Mathlib.Data.List.Induction

/-!
# The limits of the sends

For any number of requests that create and resend invitations, in any interleaving and with
any calls failing: while no send is recorded between a count and the send that relies on it,
and no invitation is sent between its reading and its resend, the limits hold. The code does
not establish the condition: two requests of one sender may both count before either records.
-/

namespace FifiAlert

open Concurrency Store InvitationCall InvitationService

/-- The requests that send. -/
inductive SendRequest where
  | create (sender : ITokenUser) (dto : CreateInvitationDto)
  | resend (senderUserId id : ℕ)

def SendRequest.process (E : InvitationEnv) : SendRequest → InvitationProcess InvitationDto
  | create sender dto => InvitationService.create E sender dto
  | resend senderUserId id => InvitationService.resend E senderUserId id

/-- The calls that neither count nor read an invitation nor record a send. -/
def InvitationCall.isQuiet : InvitationCall → Prop
  | dateNow | isActiveCode _ | userFindByEmail _ | invitationFindPending _ _
  | sendLogFindLast _ | randomBytes | setImmediate _ => True
  | _ => False

theorem quiet_of_isQuiet (E : InvitationEnv) {l : InvitationCall} (h : l.isQuiet) :
    l.leavesSends ∧ ∀ w, l.sentLog E w = none := by
  cases l with
  | dateNow | isActiveCode _ | userFindByEmail _ | invitationFindPending _ _
  | sendLogFindLast _ | randomBytes | setImmediate _ => exact ⟨trivial, fun _ => rfl⟩
  | _ => exact h.elim

section Threads

variable {ι : Type*} [DecidableEq ι] {E : InvitationEnv} {i : ι} {α β : Type}
  {asks : SendMark ι → Bool} {J : SendSnapshot ι → Prop} {s : SendSnapshot ι}

omit [DecidableEq ι] in
theorem sendMark_of_isQuiet {l : InvitationCall} (h : l.isQuiet) (w : World) :
    sendMark E i l w = none := by
  cases l with
  | dateNow | isActiveCode _ | userFindByEmail _ | invitationFindPending _ _
  | sendLogFindLast _ | randomBytes | setImmediate _ => rfl
  | _ => exact h.elim

theorem permits_of_silent {l : InvitationCall} (hl : l.leavesSends)
    (hlog : ∀ w, l.sentLog E w = none) (s : SendSnapshot ι) :
    (sendProtocol E).permits i l s := by
  refine ⟨hl, fun log h => ?_⟩
  rw [hlog] at h
  cases h

/-- A process of quiet calls keeps what the thread relies on. -/
theorem safe_quiet {p : InvitationProcess α} (hJ : (sendProtocol E).Lasting i asks J) (hs : J s)
    (hp : InvitationConfined E InvitationCall.isQuiet p) :
    Safe (sendProtocol E).contract i (OnReturn fun _ s' => J s') p s := by
  refine hJ.quietly hs (hp.mono ?_ fun _ h => h)
  rintro l next ⟨hnext, hl⟩
  obtain ⟨hleaves, hlog⟩ := quiet_of_isQuiet E hl
  refine ⟨hnext, fun s => permits_of_silent hleaves hlog s, fun w m hm => ?_⟩
  cases (sendMark_of_isQuiet hl w).symm.trans hm

/-- After a quiet process the thread still has what it relied on. -/
theorem safe_quiet_bind {p : InvitationProcess α} {k : α → InvitationProcess β}
    {Q : β → SendSnapshot ι → Prop} (hJ : (sendProtocol E).Lasting i asks J) (hs : J s)
    (hp : InvitationConfined E InvitationCall.isQuiet p)
    (hk : ∀ a s', SendLedger E s'.state → J s' →
      Safe (sendProtocol E).contract i (OnReturn Q) (k a) s') :
    Safe (sendProtocol E).contract i (OnReturn Q) (p >>= k) s :=
  Protocol.safe_onReturn_bind (safe_quiet hJ hs hp) hk

/-- The time of a call is a date that is not ahead. -/
theorem safe_dateNow_bind {k : Time → InvitationProcess β} {Q : β → SendSnapshot ι → Prop}
    (hJ : (sendProtocol E).Lasting i asks J) (hs : J s)
    (hk : ∀ s', SendLedger E s'.state → J s' →
      Safe (sendProtocol E).contract i (OnReturn Q) (k s'.state.now) s') :
    Safe (sendProtocol E).contract i (OnReturn Q) (read .dateNow World.now >>= k) s := by
  refine hJ.query_bind hs (by rfl) (permits_of_silent trivial fun _ => rfl) fun s₁ hinv hs₁ => ?_
  exact hk s₁ hinv hs₁

/-- The counts from a moment on were below the limits, and are while they stand. -/
def CountedFrom (E : InvitationEnv) (i : ι) (senderUserId : ℕ) (start : Time)
    (s : SendSnapshot ι) : Prop :=
  start ≤ s.state.now ∧
    KnownSince (SendMark.isCount i (some senderUserId)) (SendMark.countsFor (some senderUserId))
      (fun w => countSends (some senderUserId) (start - DAY_MS) w < E.dailyLimit) s ∧
    (0 < E.globalHourlyLimit → KnownSince (SendMark.isCount i none) (SendMark.countsFor none)
      (fun w => countSends none (start - HOUR_MS) w < E.globalHourlyLimit) s)

theorem thread_of_isCount {senderUserId : Option ℕ} (m : SendMark ι)
    (h : m.isCount i senderUserId = true) : m.thread = some i := by
  cases m with
  | asked j senderUserId' =>
      simp only [SendMark.isCount, Bool.and_eq_true, decide_eq_true_eq] at h
      exact congrArg some h.1
  | _ => cases h

theorem thread_of_isFind {id : ℕ} (m : SendMark ι) (h : m.isFind i id = true) :
    m.thread = some i := by
  cases m with
  | found j id' =>
      simp only [SendMark.isFind, Bool.and_eq_true, decide_eq_true_eq] at h
      exact congrArg some h.1
  | _ => cases h

theorem lasting_count (senderUserId : Option ℕ) (start : Time) (limit : ℕ) :
    (sendProtocol E).Lasting i (SendMark.isCount i senderUserId)
      (KnownSince (SendMark.isCount i senderUserId) (SendMark.countsFor senderUserId)
        fun w => countSends senderUserId start w < limit) :=
  (undisturbed_count senderUserId start limit).lasting thread_of_isCount

theorem lasting_lieBack (id : ℕ) (gap : ℤ) (date : Time) :
    (sendProtocol E).Lasting i (SendMark.isFind i id)
      (KnownSince (SendMark.isFind i id) (SendMark.isSendOf id) (SendsLieBack id gap date)) :=
  (undisturbed_lieBack id gap date).lasting thread_of_isFind

theorem lasting_counted (senderUserId : ℕ) (start : Time) :
    (sendProtocol E).Lasting i
      (fun m => false || (m.isCount i (some senderUserId) || m.isCount i none))
      (CountedFrom E i senderUserId start) :=
  (lasting_date start).and ((lasting_count _ _ _).and (lasting_count _ _ _).imp)

/-- While its counts stand, a send is within the limits. -/
theorem CountedFrom.maySend {senderUserId : ℕ} {start : Time} {log : InvitationSendLog}
    (h : CountedFrom E i senderUserId start s) (hstand : CountsStand E i senderUserId s.marks)
    (hsender : log.senderUserId = senderUserId) (hstart : start ≤ log.sentAt)
    (hsent : log.sentAt ≤ s.state.now)
    (hearlier : SendsLieBack log.invitationId E.cooldownMs log.sentAt s.state) :
    MaySend E log s.state where
  sent := hsent
  daily := by
    rw [hsender]
    exact Nat.lt_of_le_of_lt (countSends_antitone (Int.sub_le_sub_right hstart DAY_MS))
      (h.2.1 hstand.1)
  hourly := fun hpos =>
    Nat.lt_of_le_of_lt (countSends_antitone (Int.sub_le_sub_right hstart HOUR_MS))
      (h.2.2 hpos (hstand.2 hpos))
  earlier := hearlier

/-- A count leaves what the thread relies on, unless it relied on the same count. -/
theorem safe_count_bind {senderUserId : Option ℕ} {start : Time} {k : ℕ → InvitationProcess β}
    {Q : β → SendSnapshot ι → Prop} (hJ : (sendProtocol E).Lasting i asks J) (hs : J s)
    (hask : asks (.asked i senderUserId) = false)
    (hk : ∀ n s', SendLedger E s'.state → J s' →
      (∀ limit, n < limit → KnownSince (SendMark.isCount i senderUserId)
        (SendMark.countsFor senderUserId) (fun w => countSends senderUserId start w < limit) s') →
      Safe (sendProtocol E).contract i (OnReturn Q) (k n) s') :
    Safe (sendProtocol E).contract i (OnReturn Q)
      (read (.sendLogCount senderUserId start) (countSends senderUserId start) >>= k) s := by
  have hper : ∀ s, (sendProtocol E).permits i (.sendLogCount senderUserId start) s :=
    permits_of_silent trivial fun _ => rfl
  refine hJ.query_bind hs (by rfl) hper fun s₁ hinv hs₁ => ?_
  refine hk _ _ hinv (hJ.call i _ s₁ hinv (hper s₁) trivial ?_ hs₁) fun limit hlt => ?_
  · rintro m ⟨⟩
    exact hask
  · exact KnownSince.of hlt

theorem safe_enforceSendLimits (senderUserId : ℕ) (hJ : (sendProtocol E).Lasting i asks J)
    (hask : ∀ senderUserId, asks (.asked i senderUserId) = false) (hs : J s) :
    Safe (sendProtocol E).contract i
      (OnReturn fun _ s' => J s' ∧ ∃ start, CountedFrom E i senderUserId start s')
      (enforceSendLimits E senderUserId) s := by
  unfold enforceSendLimits
  refine safe_dateNow_bind hJ hs fun s₁ hinv₁ hs₁ => ?_
  have hJ₁ := hJ.and (lasting_date s₁.state.now)
  refine safe_count_bind hJ₁ ⟨hs₁, Int.le_refl _⟩ (by simp [hask]) ?_
  intro daily s₂ hinv₂ hs₂ hdaily
  split
  · exact Protocol.safe_onReturn_raise
  rename_i hbelow
  have hJ₂ := hJ₁.and (lasting_count (some senderUserId) (s₁.state.now - DAY_MS) E.dailyLimit)
  have hs₂ := And.intro hs₂ (hdaily E.dailyLimit (Nat.lt_of_not_le hbelow))
  split
  · refine safe_count_bind hJ₂ hs₂ (by simp [hask, SendMark.isCount]) ?_
    intro hourly s₃ hinv₃ hs₃ hhourly
    split
    · exact Protocol.safe_onReturn_raise
    rename_i hbelow'
    have hJ₃ := hJ₂.and (lasting_count none (s₁.state.now - HOUR_MS) E.globalHourlyLimit)
    refine hJ₃.ret ⟨hs₃, hhourly E.globalHourlyLimit (Nat.lt_of_not_le hbelow')⟩ ?_
    rintro s₄ - ⟨⟨⟨hs₄, hnow⟩, hcount⟩, hcount'⟩
    exact ⟨hs₄, s₁.state.now, hnow, hcount, fun _ => hcount'⟩
  · rename_i hoff
    refine hJ₂.ret hs₂ ?_
    rintro s₃ - ⟨⟨hs₃, hnow⟩, hcount⟩
    exact ⟨hs₃, s₁.state.now, hnow, hcount, fun hpos => absurd hpos hoff⟩

/-- The transaction that records a send. -/
theorem safe_record {l : InvitationCall} {g : World → Except PrismaError α}
    (hJ : (sendProtocol E).Lasting i asks J) (hs : J s) (hl : l.leavesSends)
    (hmay : ∀ s₁, SendLedger E s₁.state → RecordsUndisturbed E i l s₁ → J s₁ →
      ∀ log, l.sentLog E s₁.state = some log → MaySend E log s₁.state) :
    Safe (sendProtocol E).contract i (OnReturn fun _ _ => True)
      ((writeOr E l g).tryCatch onUniqueViolation) s := by
  refine hJ.atomic_tryCatch hs rfl (fun s₁ hinv hadm h₁ => ⟨hl, hmay s₁ hinv hadm h₁⟩) ?_
  intro e s₁
  unfold onUniqueViolation
  split <;> exact Protocol.safe_onReturn_raise

/-- The tail of both operations. -/
theorem safe_queueDelivery (delivery : Delivery) (dto : InvitationDto) (s : SendSnapshot ι) :
    Safe (sendProtocol E).contract i (OnReturn fun _ _ => True)
      (queueDelivery E delivery >>= fun _ => return dto) s :=
  safe_quiet .nothing trivial
    (Process.Confined.bind (queueDelivery_confined delivery trivial) fun _ => trivial)

/-- The row that `create` records belongs to no earlier send. -/
theorem safe_create (sender : ITokenUser) (dto : CreateInvitationDto) :
    Safe (sendProtocol E).contract i (OnReturn fun _ _ => True) (create E sender dto) s := by
  unfold create
  refine safe_quiet_bind .nothing trivial assertConfigured_confined fun _ s₁ _ _ => ?_
  refine safe_quiet_bind .nothing trivial (isActiveLocale_confined (fun _ => trivial) _)
    fun active s₂ _ _ => ?_
  dsimp only
  split
  · exact Protocol.safe_onReturn_raise
  refine safe_quiet_bind .nothing trivial (confined_read (by rfl) trivial) ?_
  intro existingUser s₃ _ _
  split
  · exact Protocol.safe_onReturn_raise
  refine safe_quiet_bind .nothing trivial (confined_read (by rfl) trivial) ?_
  intro pending s₄ _ _
  split
  · exact Protocol.safe_onReturn_raise
  refine Protocol.safe_onReturn_bind
    (safe_enforceSendLimits sender.id .nothing (fun _ => rfl) trivial) ?_
  rintro - s₅ - ⟨-, start, hs₅⟩
  have hJ := lasting_counted (E := E) (i := i) sender.id start
  refine safe_quiet_bind hJ hs₅ (mintInviteToken_confined trivial) fun rawToken s₆ _ hs₆ => ?_
  refine safe_dateNow_bind hJ hs₆ fun s₇ _ hs₇ => ?_
  have hJ' := hJ.and (lasting_date s₇.state.now)
  refine Protocol.safe_onReturn_bind (safe_record hJ' ⟨hs₇, Int.le_refl _⟩ trivial ?_) ?_
  · rintro s₈ hinv hstand ⟨hs₈, hdate⟩ log hlog
    dsimp only [sentLog] at hlog
    split at hlog
    · cases hlog
    · cases hlog
      refine hs₈.maySend hstand rfl hs₇.1 hdate fun r hr hid => ?_
      exact absurd hid (Nat.ne_of_lt (hinv.drawn r hr).2)
  · rintro ⟨invitation, logId⟩ s₈ - -
    exact safe_queueDelivery _ _ s₈

/-- `orderBy` of the last send: by date, then by number. -/
def InvitationSendLog.NotAfter (r l : InvitationSendLog) : Prop :=
  r.sentAt < l.sentAt ∨ (r.sentAt = l.sentAt ∧ r.id ≤ l.id)

/-- The test that makes a later send the last one. -/
theorem InvitationSendLog.NotAfter.of_later {r l l' : InvitationSendLog} (h : r.NotAfter l)
    (hlater : l.sentAt < l'.sentAt ∨ (l.sentAt = l'.sentAt ∧ l.id < l'.id)) : r.NotAfter l' := by
  rcases h with hlt | ⟨heq, hle⟩ <;> rcases hlater with hlt' | ⟨heq', hlt'⟩
  · exact .inl (Int.lt_trans hlt hlt')
  · exact .inl (heq' ▸ hlt)
  · exact .inl (heq ▸ hlt')
  · exact .inr ⟨heq.trans heq', Nat.le_trans hle (Nat.le_of_lt hlt')⟩

theorem InvitationSendLog.NotAfter.of_not_later {r l : InvitationSendLog}
    (h : ¬ (l.sentAt < r.sentAt ∨ (l.sentAt = r.sentAt ∧ l.id < r.id))) : r.NotAfter l := by
  rcases Int.lt_trichotomy r.sentAt l.sentAt with hlt | heq | hlt
  · exact .inl hlt
  · exact .inr ⟨heq, Nat.le_of_not_lt fun hlt => h (.inr ⟨heq.symm, hlt⟩)⟩
  · exact absurd (.inl hlt) h

/-- The last of some sends. -/
def lastSend (rows : List InvitationSendLog) : Option InvitationSendLog :=
  rows.foldl (fun last r => match last with
    | some l => if l.sentAt < r.sentAt ∨ (l.sentAt = r.sentAt ∧ l.id < r.id) then some r else some l
    | none => some r) none

theorem lastSend_append (rows : List InvitationSendLog) (r : InvitationSendLog) :
    lastSend (rows ++ [r]) = match lastSend rows with
      | some l =>
          if l.sentAt < r.sentAt ∨ (l.sentAt = r.sentAt ∧ l.id < r.id) then some r else some l
      | none => some r := by
  unfold lastSend
  rw [List.foldl_append]
  rfl

theorem lastSend_eq_none {rows : List InvitationSendLog} (h : lastSend rows = none) :
    rows = [] := by
  cases rows using List.reverseRecOn with
  | nil => rfl
  | append_singleton rows r =>
      rw [lastSend_append] at h
      split at h
      · split at h <;> cases h
      · cases h

/-- The last send is one of them, and none comes after it. -/
theorem lastSend_eq_some {rows : List InvitationSendLog} {l : InvitationSendLog}
    (h : lastSend rows = some l) : l ∈ rows ∧ ∀ r ∈ rows, r.NotAfter l := by
  induction rows using List.reverseRecOn generalizing l with
  | nil => cases h
  | append_singleton rows r ih =>
      rw [lastSend_append] at h
      have hself : ∀ x : InvitationSendLog, x.NotAfter x := fun x => .inr ⟨rfl, Nat.le_refl _⟩
      cases hlast : lastSend rows with
      | none =>
          rw [hlast] at h
          cases h
          rw [lastSend_eq_none hlast, List.nil_append]
          exact ⟨List.mem_singleton_self r, fun x hx => List.mem_singleton.1 hx ▸ hself r⟩
      | some l' =>
          rw [hlast] at h
          dsimp only at h
          obtain ⟨hmem, hall⟩ := ih hlast
          split at h
          · rename_i hlater
            cases h
            refine ⟨List.mem_append_right rows (List.mem_singleton_self r), fun x hx => ?_⟩
            rcases List.mem_append.1 hx with hx | hx
            · exact (hall x hx).of_later hlater
            · exact List.mem_singleton.1 hx ▸ hself r
          · rename_i hlater
            cases h
            refine ⟨List.mem_append_left [r] hmem, fun x hx => ?_⟩
            rcases List.mem_append.1 hx with hx | hx
            · exact hall x hx
            · rw [List.mem_singleton.1 hx]
              exact .of_not_later hlater

/-- When the last send has failed, the earlier ones lie far enough back. -/
theorem SendLedger.lieBack_of_failed {w : World} {id : ℕ} {l : InvitationSendLog}
    (h : SendLedger E w)
    (hlast : lastSend (w.invitationSendLogs.findMany fun r => r.invitationId = id) = some l)
    (hfailed : l.outcome = .failed) : SendsLieBack id E.cooldownMs w.now w := by
  intro r hr hid
  refine ⟨h.sent r hr, fun hr₀ => ?_⟩
  obtain ⟨hmem, hall⟩ := lastSend_eq_some hlast
  obtain ⟨hl, hlid⟩ := Table.mem_findMany.1 hmem
  have hlid : l.invitationId = id := of_decide_eq_true hlid
  have hnot := hall r (Table.mem_findMany.2 ⟨hr, decide_eq_true hid⟩)
  have hne : r.id ≠ l.id := by
    intro he
    have hrow := Table.find?_of_mem hr
    rw [he, Table.find?_of_mem hl] at hrow
    cases hrow
    exact hr₀ hfailed
  have hlt : r.id < l.id := by
    rcases hnot with hbefore | ⟨-, hle⟩
    · by_contra hge
      have hle := h.ordered l hl r hr (hlid.trans hid.symm) (by omega)
      exact Int.not_le.2 hbefore hle
    · omega
  exact Int.le_trans (h.spaced r hr l hl (hid.trans hlid.symm) hlt hr₀) (h.sent l hl)

theorem enforceCooldown_eq (row : Invitation) :
    enforceCooldown E row =
      read (.sendLogFindLast row.id) (fun w =>
        lastSend (w.invitationSendLogs.findMany fun r => r.invitationId = row.id)) >>= fun last =>
          if last.map InvitationSendLog.outcome = some .failed then .ret ()
          else read .dateNow World.now >>= fun now =>
            if now - row.sentAt < E.cooldownMs then
              .raise (.tooManyRequests "Please wait before resending this invitation")
            else .ret () := rfl

/-- After the cooldown the earlier sends of the invitation lie far enough back, if it was not
sent since it was read. -/
theorem safe_enforceCooldown {row : Invitation} (hJ : (sendProtocol E).Lasting i asks J)
    (hs : J s)
    (hrow : KnownSince (SendMark.isFind i row.id) (SendMark.isSendOf row.id)
      (SendsLieBack row.id 0 row.sentAt) s) :
    Safe (sendProtocol E).contract i
      (OnReturn fun _ s' => J s' ∧ ∃ date, date ≤ s'.state.now ∧
        KnownSince (SendMark.isFind i row.id) (SendMark.isSendOf row.id)
          (SendsLieBack row.id E.cooldownMs date) s') (enforceCooldown E row) s := by
  rw [enforceCooldown_eq]
  have hJ₁ := hJ.and (lasting_lieBack (E := E) (i := i) row.id 0 row.sentAt)
  have hper : ∀ s, (sendProtocol E).permits i (.sendLogFindLast row.id) s :=
    permits_of_silent trivial fun _ => rfl
  refine hJ₁.query_bind ⟨hs, hrow⟩ (by rfl) hper fun s₁ hinv₁ hs₁ => ?_
  split
  · rename_i hfailed
    obtain ⟨l, hlast, hl⟩ := Option.map_eq_some_iff.1 hfailed
    have hback := hinv₁.lieBack_of_failed hlast hl
    have hJ₂ := hJ₁.and ((lasting_date s₁.state.now).and
      (lasting_lieBack (E := E) (i := i) row.id E.cooldownMs s₁.state.now))
    refine hJ₂.ret ⟨hs₁, Int.le_refl _, KnownSince.of hback⟩ ?_
    rintro s₂ - ⟨⟨hs₂, -⟩, hdate, hknown⟩
    exact ⟨hs₂, s₁.state.now, hdate, hknown⟩
  · refine safe_dateNow_bind hJ₁ hs₁ fun s₂ _ hs₂ => ?_
    split
    · exact Protocol.safe_onReturn_raise
    rename_i hwaited
    have hback : KnownSince (SendMark.isFind i row.id) (SendMark.isSendOf row.id)
        (SendsLieBack row.id E.cooldownMs s₂.state.now) s₂ := by
      refine hs₂.2.mono fun hrow r hr hid => ?_
      have hcool : E.cooldownMs ≤ s₂.state.now - row.sentAt := Int.not_lt.1 hwaited
      have hle := (hrow r hr hid).1
      have hpos : 0 ≤ E.cooldownMs := by
        unfold InvitationEnv.cooldownMs
        omega
      have hsum : r.sentAt + E.cooldownMs ≤ s₂.state.now :=
        Int.le_trans (Int.add_le_add_right hle E.cooldownMs) (Int.add_le_of_le_sub_left hcool)
      exact ⟨Int.le_trans (Int.le_add_of_nonneg_right hpos) hsum, fun _ => hsum⟩
    have hJ₂ := hJ₁.and ((lasting_date s₂.state.now).and
      (lasting_lieBack (E := E) (i := i) row.id E.cooldownMs s₂.state.now))
    refine hJ₂.ret ⟨hs₂, Int.le_refl _, hback⟩ ?_
    rintro s₃ - ⟨⟨hs₃, -⟩, hdate, hknown⟩
    exact ⟨hs₃, s₂.state.now, hdate, hknown⟩

/-- The sender's row, and the dates of its sends. -/
theorem safe_findOwned (senderUserId id : ℕ) :
    Safe (sendProtocol E).contract i
      (OnReturn fun row s' => row.id = id ∧ KnownSince (SendMark.isFind i id)
        (SendMark.isSendOf id) (SendsLieBack id 0 row.sentAt) s')
      (findOwned senderUserId id) s := by
  unfold findOwned
  refine Protocol.Lasting.nothing.query_bind trivial (by rfl)
    (permits_of_silent trivial fun _ => rfl) fun s₁ hinv _ => ?_
  cases hrow : (s₁.state.invitations.find? id).filter fun r => r.senderUserId = senderUserId with
  | none => exact Protocol.safe_onReturn_raise
  | some row =>
      have hfind := (Option.filter_eq_some_iff.1 hrow).1
      have hid := Table.key_of_find? hfind
      refine (lasting_lieBack id 0 row.sentAt).ret (KnownSince.of ?_) fun s₂ _ hs₂ => ⟨hid, hs₂⟩
      intro r hr hrid
      have hle := hinv.latest r hr row (Table.mem_of_find? hfind) (hid.trans hrid.symm)
      exact ⟨hle, fun _ => (Int.add_zero r.sentAt).symm ▸ hle⟩

theorem safe_resend (senderUserId id : ℕ) :
    Safe (sendProtocol E).contract i (OnReturn fun _ _ => True) (resend E senderUserId id) s := by
  unfold resend
  refine safe_quiet_bind .nothing trivial assertConfigured_confined fun _ s₁ _ _ => ?_
  refine Protocol.safe_onReturn_bind (safe_findOwned senderUserId id) ?_
  rintro row s₂ - ⟨rfl, hs₂⟩
  have hJ := lasting_lieBack (E := E) (i := i) row.id 0 row.sentAt
  split
  · exact Protocol.safe_onReturn_raise
  refine safe_quiet_bind hJ hs₂ (confined_read (by rfl) trivial) ?_
  intro registered s₃ _ hs₃
  split
  · exact Protocol.safe_onReturn_raise
  refine Protocol.safe_onReturn_bind (safe_enforceCooldown .nothing trivial hs₃) ?_
  rintro - s₄ - ⟨-, date, hs₄⟩
  have hJ := (lasting_date date).and (lasting_lieBack (E := E) (i := i) row.id E.cooldownMs date)
  refine Protocol.safe_onReturn_bind
    (safe_enforceSendLimits senderUserId hJ (fun _ => rfl) hs₄) ?_
  rintro - s₅ - ⟨hs₅, start, hcounted⟩
  have hJ := hJ.and (lasting_counted (E := E) (i := i) senderUserId start)
  refine safe_quiet_bind hJ ⟨hs₅, hcounted⟩ (mintInviteToken_confined trivial)
    fun rawToken s₆ _ hs₆ => ?_
  refine safe_dateNow_bind hJ hs₆ fun s₇ _ hs₇ => ?_
  have hJ' := hJ.and (lasting_date s₇.state.now)
  refine Protocol.safe_onReturn_bind (safe_record hJ' ⟨hs₇, Int.le_refl _⟩ trivial ?_) ?_
  · rintro s₈ hinv ⟨hstand, hunsent⟩ ⟨⟨⟨-, hback⟩, hcounted⟩, hdate⟩ log hlog
    dsimp only [sentLog] at hlog
    split at hlog
    · rename_i row' hrow'
      cases hlog
      refine hcounted.maySend hstand rfl hs₇.2.1 hdate ?_
      intro r hr hid
      have hid' : row'.id = row.id := id_of_resentRow hrow'
      obtain ⟨hle, hfar⟩ := hback hunsent r hr (hid.trans hid')
      exact ⟨Int.le_trans hle hs₇.1.1, fun hr₀ => Int.le_trans (hfar hr₀) hs₇.1.1⟩
    · cases hlog
  · rintro ⟨invitation, logId⟩ s₈ - -
    exact safe_queueDelivery _ _ s₈

theorem safe_sendRequest (r : SendRequest) :
    Safe (sendProtocol E).contract i (OnReturn fun _ _ => True) (r.process E) s := by
  cases r with
  | create sender dto => exact safe_create sender dto
  | resend senderUserId id => exact safe_resend senderUserId id

end Threads

/-- In every run of requests that create and resend invitations in which sends are recorded
undisturbed, the limits hold at every moment. -/
theorem sendLimits_of_undisturbed {ι : Type*} [DecidableEq ι] (E : InvitationEnv)
    (req : ι → SendRequest) (w : World) (hw : SendLedger E w)
    {c : Config ι World InvitationCall AppError InvitationDto (SendMark ι)}
    (h : Reaches (sendSetting E (RecordsUndisturbed E))
      (Config.init w fun i => (req i).process E) c) : SendLimits E c.state := by
  have hsound : Sound (sendProtocol E).contract (fun _ => OnReturn fun _ _ => True)
      (Config.init w fun i => (req i).process E) :=
    ⟨hw, fun i => safe_sendRequest (req i)⟩
  have hledger : SendLedger E c.state := (hsound.reaches h).1
  exact hledger.limits

/-- Before the first send. -/
theorem sendLedger_of_empty {E : InvitationEnv} {w : World} (h : w.invitationSendLogs.rows = [])
    (hknown : ∀ v ∈ w.invitations.rows, v.id < w.nextInvitation) : SendLedger E w := by
  have hwithin : ∀ senderUserId start finish, sendsWithin senderUserId start finish w = 0 := by
    intro senderUserId start finish
    unfold sendsWithin Table.count
    rw [h, List.countP_nil]
  have hnone : ∀ r, r ∉ w.invitationSendLogs.rows := by
    intro r hr
    rw [h] at hr
    cases hr
  constructor
  · exact fun senderUserId t => (hwithin _ _ _).symm ▸ Nat.zero_le _
  · exact fun _ t => (hwithin _ _ _).symm ▸ Nat.zero_le _
  · exact fun r hr => absurd hr (hnone r)
  · exact fun r hr => absurd hr (hnone r)
  · exact hknown
  · exact fun r hr => absurd hr (hnone r)
  · exact fun r hr => absurd hr (hnone r)
  · exact fun r hr => absurd hr (hnone r)

/-- One send a day for each sender. -/
def onceADay : InvitationEnv := { withdrawEnv with dailyLimit := 1 }

def unsentWorld : World where
  activeLanguages := ["en"]

/-- User 1 invites two people. -/
def twoInvites (second : Bool) : SendRequest :=
  .create { id := 1 }
    { recipientEmail := if second then "b" else "a", locale := "en", subject := "Join",
      body := "Here: \x7binviteLink\x7d" }

theorem sendLedger_unsentWorld : SendLedger onceADay unsentWorld :=
  sendLedger_of_empty (w := unsentWorld) rfl fun _ hv => absurd hv List.not_mem_nil

instance {ι : Type*} [DecidableEq ι] (E : InvitationEnv) (i : ι) (l : InvitationCall)
    (s : SendSnapshot ι) : Decidable (RecordsUndisturbed E i l s) := by
  apply InvitationCall.casesOn (motive := fun l => Decidable (RecordsUndisturbed E i l s)) l <;>
    intros <;> unfold RecordsUndisturbed CountsStand <;> infer_instance

/-- One invitation after the other: the second is refused. -/
theorem sendLimits_of_undisturbed_onceADay :
    SendLimits onceADay ((Config.init unsentWorld fun i => (twoInvites i).process onceADay).schedule
      (sendMark onceADay) (List.replicate 10 false ++ List.replicate 10 true)).state := by
  have hok : (Config.init unsentWorld fun i => (twoInvites i).process onceADay).scheduleOk
      (sendMark onceADay) (fun i l s => decide (RecordsUndisturbed onceADay i l s))
      (List.replicate 10 false ++ List.replicate 10 true) = true := by decide +kernel
  exact sendLimits_of_undisturbed onceADay twoInvites unsentWorld sendLedger_unsentWorld
    (Reaches.scheduleOk (S := sendSetting onceADay (RecordsUndisturbed onceADay))
      (fun i l s => decide (RecordsUndisturbed onceADay i l s)) (fun _ _ _ => of_decide_eq_true)
      hok)

/-- Both invitations are counted before either is recorded: two sends in a day. -/
theorem sendLimits_overrun :
    SendLedger onceADay unsentWorld ∧
      ∃ c : Config Bool World InvitationCall AppError InvitationDto (SendMark Bool),
        Reaches (sendSetting onceADay fun _ _ _ => True)
          (Config.init unsentWorld fun i => (twoInvites i).process onceADay) c ∧
        sendsWithin (some 1) (0 - DAY_MS) 0 c.state = 2 ∧ ¬ SendLimits onceADay c.state := by
  refine ⟨sendLedger_unsentWorld, _, Reaches.schedule (fun _ _ _ => trivial)
    (List.replicate 8 false ++ List.replicate 8 true ++ [false, true]) _, ?_⟩
  have htwo : sendsWithin (some 1) (0 - DAY_MS) 0
      ((Config.init unsentWorld fun i => (twoInvites i).process onceADay).schedule
        (sendMark onceADay)
        (List.replicate 8 false ++ List.replicate 8 true ++ [false, true])).state = 2 := by
    decide +kernel
  refine ⟨htwo, fun hlimits => ?_⟩
  have hle : 2 ≤ 1 := Nat.le_trans (Nat.le_of_eq htwo.symm) (hlimits.daily 1 0)
  exact absurd hle (by decide)

end FifiAlert
