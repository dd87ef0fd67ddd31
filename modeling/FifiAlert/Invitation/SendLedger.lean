import FifiAlert.Concurrency.Since
import FifiAlert.Invitation.InvitationService

/-!
# The ledger of the sends

The limits of the invitation sends as a property of the send log, what a send does to the
log, and the invariant that a permitted send keeps. A send is permitted where the counts of
the windows that end with it are below the limits and the earlier sends of the invitation
lie far enough back.
-/

namespace FifiAlert

open Concurrency Store InvitationCall InvitationService

def InvitationEnv.cooldownMs (E : InvitationEnv) : ℤ := E.resendCooldownMinutes * 60 * 1000

/-- How many sends of one sender or of all that did not fail lie after one moment and not
after another. -/
def sendsWithin (senderUserId : Option ℕ) (start finish : Time) (w : World) : ℕ :=
  w.invitationSendLogs.count fun r =>
    senderUserId.all (r.senderUserId = ·) && start < r.sentAt && r.sentAt ≤ finish &&
      r.outcome ≠ .failed

/-- The limits: for each sender in a day, for all senders in an hour, and between two sends
of one invitation. -/
structure SendLimits (E : InvitationEnv) (w : World) : Prop where
  daily : ∀ senderUserId t,
    sendsWithin (some senderUserId) (t - DAY_MS) t w ≤ E.dailyLimit
  hourly : 0 < E.globalHourlyLimit → ∀ t,
    sendsWithin none (t - HOUR_MS) t w ≤ E.globalHourlyLimit
  cooldown : ∀ r ∈ w.invitationSendLogs.rows, ∀ r' ∈ w.invitationSendLogs.rows,
    r.invitationId = r'.invitationId → r.id < r'.id → r.outcome ≠ .failed →
      r'.outcome ≠ .failed → r.sentAt + E.cooldownMs ≤ r'.sentAt

/-- The limits, with what else holds of the log, the invitations and their numbers. -/
structure SendLedger (E : InvitationEnv) (w : World) : Prop where
  daily : ∀ senderUserId t,
    sendsWithin (some senderUserId) (t - DAY_MS) t w ≤ E.dailyLimit
  hourly : 0 < E.globalHourlyLimit → ∀ t,
    sendsWithin none (t - HOUR_MS) t w ≤ E.globalHourlyLimit
  sent : ∀ r ∈ w.invitationSendLogs.rows, r.sentAt ≤ w.now
  drawn : ∀ r ∈ w.invitationSendLogs.rows,
    r.id < w.nextSendLog ∧ r.invitationId < w.nextInvitation
  known : ∀ v ∈ w.invitations.rows, v.id < w.nextInvitation
  ordered : ∀ r ∈ w.invitationSendLogs.rows, ∀ r' ∈ w.invitationSendLogs.rows,
    r.invitationId = r'.invitationId → r.id < r'.id → r.sentAt ≤ r'.sentAt
  spaced : ∀ r ∈ w.invitationSendLogs.rows, ∀ r' ∈ w.invitationSendLogs.rows,
    r.invitationId = r'.invitationId → r.id < r'.id → r.outcome ≠ .failed →
      r.sentAt + E.cooldownMs ≤ r'.sentAt
  latest : ∀ r ∈ w.invitationSendLogs.rows, ∀ v ∈ w.invitations.rows,
    v.id = r.invitationId → r.sentAt ≤ v.sentAt

theorem SendLedger.limits {E : InvitationEnv} {w : World} (h : SendLedger E w) :
    SendLimits E w where
  daily := h.daily
  hourly := h.hourly
  cooldown := fun r hr r' hr' hinv hid hr₀ _ => h.spaced r hr r' hr' hinv hid hr₀

/-- What others may do: let time pass, remove rows, and let a send fail. -/
structure SendsKept (w w' : World) : Prop where
  now : w.now ≤ w'.now
  log : ∀ r' ∈ w'.invitationSendLogs.rows, ∃ r ∈ w.invitationSendLogs.rows, r.id = r'.id ∧
    r.invitationId = r'.invitationId ∧ r.senderUserId = r'.senderUserId ∧
      r.sentAt = r'.sentAt ∧ (r.outcome = .failed → r'.outcome = .failed)
  invitation : ∀ v' ∈ w'.invitations.rows, ∃ v ∈ w.invitations.rows,
    v.id = v'.id ∧ v.sentAt = v'.sentAt
  nextSendLog : w.nextSendLog ≤ w'.nextSendLog
  nextInvitation : w.nextInvitation ≤ w'.nextInvitation

/-- What a send does: it adds a row to the log and dates its invitation. -/
structure Sends (log : InvitationSendLog) (w w' : World) : Prop where
  now : w'.now = w.now
  rows : w'.invitationSendLogs.rows = w.invitationSendLogs.rows ++ [log]
  id : log.id = w.nextSendLog
  nextSendLog : w'.nextSendLog = w.nextSendLog + 1
  nextInvitation : w.nextInvitation ≤ w'.nextInvitation
  invitationId : log.invitationId < w'.nextInvitation
  invitation : ∀ v' ∈ w'.invitations.rows,
    (v'.id = log.invitationId ∧ v'.sentAt = log.sentAt) ∨
      (v'.id ≠ log.invitationId ∧ ∃ v ∈ w.invitations.rows, v.id = v'.id ∧ v.sentAt = v'.sentAt)

/-- Where a send is permitted. -/
structure MaySend (E : InvitationEnv) (log : InvitationSendLog) (w : World) : Prop where
  sent : log.sentAt ≤ w.now
  daily : countSends (some log.senderUserId) (log.sentAt - DAY_MS) w < E.dailyLimit
  hourly : 0 < E.globalHourlyLimit →
    countSends none (log.sentAt - HOUR_MS) w < E.globalHourlyLimit
  earlier : ∀ r ∈ w.invitationSendLogs.rows, r.invitationId = log.invitationId →
    r.sentAt ≤ log.sentAt ∧ (r.outcome ≠ .failed → r.sentAt + E.cooldownMs ≤ log.sentAt)

section Counts

variable {w w' : World} {senderUserId : Option ℕ} {start start' finish : Time}

theorem countSends_le_of_kept (h : SendsKept w w') :
    countSends senderUserId start w' ≤ countSends senderUserId start w := by
  apply Table.count_le_count
  intro r' hr' hp
  obtain ⟨r, hr, hid, -, hsender, hsent, hfailed⟩ := h.log r' hr'
  simp only [Bool.and_eq_true, decide_eq_true_eq] at hp
  obtain ⟨⟨hp₁, hp₂⟩, hp₃⟩ := hp
  have hr₀ : r.outcome ≠ .failed := fun he => hp₃ (hfailed he)
  refine ⟨r, hr, hid, ?_⟩
  simp [hsender, hsent, hp₁, hp₂, hr₀]

theorem sendsWithin_le_of_kept (h : SendsKept w w') :
    sendsWithin senderUserId start finish w' ≤ sendsWithin senderUserId start finish w := by
  apply Table.count_le_count
  intro r' hr' hp
  obtain ⟨r, hr, hid, -, hsender, hsent, hfailed⟩ := h.log r' hr'
  simp only [Bool.and_eq_true, decide_eq_true_eq] at hp
  obtain ⟨⟨⟨hp₁, hp₂⟩, hp₃⟩, hp₄⟩ := hp
  have hr₀ : r.outcome ≠ .failed := fun he => hp₄ (hfailed he)
  refine ⟨r, hr, hid, ?_⟩
  simp [hsender, hsent, hp₁, hp₂, hp₃, hr₀]

/-- Counting from a later moment finds less. -/
theorem countSends_antitone (h : start ≤ start') :
    countSends senderUserId start' w ≤ countSends senderUserId start w := by
  apply List.countP_mono_left
  intro r _ hp
  simp only [Bool.and_eq_true, decide_eq_true_eq] at hp ⊢
  obtain ⟨⟨hp₁, hp₂⟩, hp₃⟩ := hp
  exact ⟨⟨hp₁, Int.lt_of_le_of_lt h hp₂⟩, hp₃⟩

/-- A window holds no more than what lies after its start. -/
theorem sendsWithin_le_countSends :
    sendsWithin senderUserId start finish w ≤ countSends senderUserId start w := by
  apply List.countP_mono_left
  intro r _ hp
  simp only [Bool.and_eq_true, decide_eq_true_eq] at hp ⊢
  obtain ⟨⟨⟨hp₁, hp₂⟩, -⟩, hp₄⟩ := hp
  exact ⟨⟨hp₁, hp₂⟩, hp₄⟩

variable {log : InvitationSendLog}

/-- A send by somebody else leaves the count of a sender. -/
theorem countSends_of_sends (h : Sends log w w')
    (hother : senderUserId.all (log.senderUserId = ·) = false) :
    countSends senderUserId start w' = countSends senderUserId start w := by
  unfold countSends Table.count
  rw [h.rows, List.countP_append, List.countP_singleton, hother]
  simp

/-- The limit of a window survives a send that counts less than the limit before it. -/
theorem sendsWithin_of_sends {span : ℤ} {limit : ℕ} (h : Sends log w w')
    (hwindow : ∀ t, sendsWithin senderUserId (t - span) t w ≤ limit)
    (hcount : senderUserId.all (log.senderUserId = ·) = true →
      countSends senderUserId (log.sentAt - span) w < limit) (t : Time) :
    sendsWithin senderUserId (t - span) t w' ≤ limit := by
  have hsplit : sendsWithin senderUserId (t - span) t w' =
      sendsWithin senderUserId (t - span) t w +
        if senderUserId.all (log.senderUserId = ·) && t - span < log.sentAt && log.sentAt ≤ t &&
            log.outcome ≠ .failed then 1 else 0 := by
    unfold sendsWithin Table.count
    rw [h.rows, List.countP_append, List.countP_singleton]
  rw [hsplit]
  split
  · rename_i hlog
    simp only [Bool.and_eq_true, decide_eq_true_eq] at hlog
    obtain ⟨⟨⟨hsender, -⟩, hle⟩, -⟩ := hlog
    have hstart : log.sentAt - span ≤ t - span := Int.sub_le_sub_right hle span
    have hbelow : sendsWithin senderUserId (t - span) t w < limit :=
      Nat.lt_of_le_of_lt (Nat.le_trans sendsWithin_le_countSends (countSends_antitone hstart))
        (hcount hsender)
    exact hbelow
  · exact hwindow t

end Counts

namespace SendLedger

variable {E : InvitationEnv} {w w' : World} {log : InvitationSendLog}

/-- What others do keeps the ledger. -/
theorem kept (h : SendLedger E w) (hkept : SendsKept w w') : SendLedger E w' where
  daily := fun senderUserId t => Nat.le_trans (sendsWithin_le_of_kept hkept)
    (h.daily senderUserId t)
  hourly := fun hpos t => Nat.le_trans (sendsWithin_le_of_kept hkept) (h.hourly hpos t)
  sent := by
    intro r' hr'
    obtain ⟨r, hr, -, -, -, hsent, -⟩ := hkept.log r' hr'
    exact hsent ▸ Int.le_trans (h.sent r hr) hkept.now
  drawn := by
    intro r' hr'
    obtain ⟨r, hr, hid, hinv, -⟩ := hkept.log r' hr'
    obtain ⟨hlt, hlt'⟩ := h.drawn r hr
    exact ⟨hid ▸ Nat.lt_of_lt_of_le hlt hkept.nextSendLog,
      hinv ▸ Nat.lt_of_lt_of_le hlt' hkept.nextInvitation⟩
  known := by
    intro v' hv'
    obtain ⟨v, hv, hid, -⟩ := hkept.invitation v' hv'
    exact hid ▸ Nat.lt_of_lt_of_le (h.known v hv) hkept.nextInvitation
  ordered := by
    intro r' hr' r₁' hr₁' hinv hlt
    obtain ⟨r, hr, hid, hinv₀, -, hsent, -⟩ := hkept.log r' hr'
    obtain ⟨r₁, hr₁, hid₁, hinv₁, -, hsent₁, -⟩ := hkept.log r₁' hr₁'
    have hle := h.ordered r hr r₁ hr₁ (by rw [hinv₀, hinv₁, hinv]) (by rw [hid, hid₁]; exact hlt)
    rw [hsent, hsent₁] at hle
    exact hle
  spaced := by
    intro r' hr' r₁' hr₁' hinv hlt hr₀
    obtain ⟨r, hr, hid, hinv₀, -, hsent, hfailed⟩ := hkept.log r' hr'
    obtain ⟨r₁, hr₁, hid₁, hinv₁, -, hsent₁, -⟩ := hkept.log r₁' hr₁'
    have hle := h.spaced r hr r₁ hr₁ (by rw [hinv₀, hinv₁, hinv]) (by rw [hid, hid₁]; exact hlt)
      fun he => hr₀ (hfailed he)
    rw [hsent, hsent₁] at hle
    exact hle
  latest := by
    intro r' hr' v' hv' hid
    obtain ⟨r, hr, -, hinv, -, hsent, -⟩ := hkept.log r' hr'
    obtain ⟨v, hv, hvid, hvsent⟩ := hkept.invitation v' hv'
    have hle := h.latest r hr v hv (by rw [hvid, hinv, hid])
    rw [hsent, hvsent] at hle
    exact hle

/-- A permitted send keeps the ledger. -/
theorem send (h : SendLedger E w) (hmay : MaySend E log w) (hsends : Sends log w w') :
    SendLedger E w' := by
  have hmem : ∀ r, r ∈ w'.invitationSendLogs.rows ↔ r ∈ w.invitationSendLogs.rows ∨ r = log := by
    intro r
    rw [hsends.rows, List.mem_append, List.mem_singleton]
  have hbefore : ∀ r ∈ w.invitationSendLogs.rows, r.id < log.id := by
    intro r hr
    rw [hsends.id]
    exact (h.drawn r hr).1
  constructor
  · intro senderUserId
    refine sendsWithin_of_sends hsends (h.daily senderUserId) fun hsender => ?_
    have hsender : log.senderUserId = senderUserId := by simpa using hsender
    exact hsender ▸ hmay.daily
  · exact fun hpos => sendsWithin_of_sends hsends (h.hourly hpos) fun _ => hmay.hourly hpos
  · intro r hr
    rw [hsends.now]
    rcases (hmem r).1 hr with hr | rfl
    · exact h.sent r hr
    · exact hmay.sent
  · intro r hr
    rw [hsends.nextSendLog]
    rcases (hmem r).1 hr with hr | rfl
    · obtain ⟨hlt, hlt'⟩ := h.drawn r hr
      exact ⟨Nat.lt_succ_of_lt hlt, Nat.lt_of_lt_of_le hlt' hsends.nextInvitation⟩
    · exact ⟨hsends.id ▸ Nat.lt_succ_self _, hsends.invitationId⟩
  · intro v hv
    rcases hsends.invitation v hv with ⟨hid, -⟩ | ⟨-, v₀, hv₀, hid, -⟩
    · exact hid ▸ hsends.invitationId
    · exact hid ▸ Nat.lt_of_lt_of_le (h.known v₀ hv₀) hsends.nextInvitation
  · intro r hr r' hr' hinv hlt
    rcases (hmem r).1 hr with hr | rfl <;> rcases (hmem r').1 hr' with hr' | rfl
    · exact h.ordered r hr r' hr' hinv hlt
    · exact (hmay.earlier r hr hinv).1
    · exact absurd hlt (Nat.lt_asymm (hbefore r' hr'))
    · exact absurd hlt (Nat.lt_irrefl _)
  · intro r hr r' hr' hinv hlt hr₀
    rcases (hmem r).1 hr with hr | rfl <;> rcases (hmem r').1 hr' with hr' | rfl
    · exact h.spaced r hr r' hr' hinv hlt hr₀
    · exact (hmay.earlier r hr hinv).2 hr₀
    · exact absurd hlt (Nat.lt_asymm (hbefore r' hr'))
    · exact absurd hlt (Nat.lt_irrefl _)
  · intro r hr v hv hid
    rcases hsends.invitation v hv with ⟨hvid, hvsent⟩ | ⟨hne, v₀, hv₀, hvid, hvsent⟩
    · rw [hvsent]
      rcases (hmem r).1 hr with hr | rfl
      · exact (hmay.earlier r hr (hid.symm.trans hvid)).1
      · exact Int.le_refl _
    · rcases (hmem r).1 hr with hr | rfl
      · exact hvsent ▸ h.latest r hr v₀ hv₀ (hvid.trans hid)
      · exact absurd hid hne

end SendLedger

end FifiAlert
