import FifiAlert.Invitation.SendLedger

/-!
# The protocol of the sends

The requests that send, the marks they leave, and the condition under which the limits
hold: between a count and the send that relies on it, no other send of the kind counted is
recorded, and between the reading of an invitation and its resend no other send of it.
-/

namespace FifiAlert

open Concurrency Store InvitationCall InvitationService

/-- The notable calls: a thread counted the sends, it read an invitation of the sender, and
a send was recorded. -/
inductive SendMark (ι : Type*) where
  | asked (thread : ι) (senderUserId : Option ℕ)
  | found (thread : ι) (id : ℕ)
  | sent (senderUserId invitationId : ℕ)

namespace SendMark

variable {ι : Type*}

/-- The thread that asked. -/
def thread : SendMark ι → Option ι
  | asked i _ => some i
  | found i _ => some i
  | sent _ _ => none

def isCount [DecidableEq ι] (i : ι) (senderUserId : Option ℕ) : SendMark ι → Bool
  | asked j senderUserId' => j = i && senderUserId' = senderUserId
  | _ => false

def isFind [DecidableEq ι] (i : ι) (id : ℕ) : SendMark ι → Bool
  | found j id' => j = i && id' = id
  | _ => false

/-- A send by the sender, or by anyone. -/
def countsFor (senderUserId : Option ℕ) : SendMark ι → Bool
  | sent senderUserId' _ => senderUserId.all (senderUserId' = ·)
  | _ => false

def isSendOf (id : ℕ) : SendMark ι → Bool
  | sent _ id' => id' = id
  | _ => false

end SendMark

abbrev SendSnapshot (ι : Type*) := Snapshot World (SendMark ι)

/-- The row that a call adds to the send log, when it does. -/
def InvitationCall.sentLog (E : InvitationEnv) (l : InvitationCall) (w : World) :
    Option InvitationSendLog :=
  match l with
  | invitationCreate invitation =>
      let row := { invitation with id := w.nextInvitation }
      if uniqueViolation w.invitations row then none
      else some (queuedLog E w.nextSendLog row row.senderUserId row.sentAt)
  | invitationResend id tokenHash date expiresAt senderUserId =>
      match resentRow id tokenHash date expiresAt w.invitations with
      | .ok row => some (queuedLog E w.nextSendLog row senderUserId date)
      | .error _ => none
  | _ => none

section Setting

variable {ι : Type*}

def sendMark (E : InvitationEnv) (i : ι) (l : InvitationCall) (w : World) : Option (SendMark ι) :=
  match l with
  | .sendLogCount senderUserId _ => some (.asked i senderUserId)
  | .invitationFindOwned id _ => some (.found i id)
  | l => (l.sentLog E w).map fun log => .sent log.senderUserId log.invitationId

theorem sendMark_of_sentLog {E : InvitationEnv} {i : ι} {l : InvitationCall} {w : World}
    {log : InvitationSendLog} (h : l.sentLog E w = some log) :
    sendMark E i l w = some (.sent log.senderUserId log.invitationId) := by
  cases l with
  | sendLogCount senderUserId after => cases h
  | invitationFindOwned id senderUserId => cases h
  | _ =>
      exact congrArg
        (Option.map fun log => SendMark.sent log.senderUserId log.invitationId) h

/-- What a thread asked bears its name. -/
theorem thread_of_sendMark {E : InvitationEnv} {i j : ι} {l : InvitationCall} {w : World}
    {m : SendMark ι} (h : sendMark E j l w = some m) (hthread : m.thread = some i) : j = i := by
  cases l with
  | sendLogCount senderUserId after =>
      cases h
      exact Option.some.inj hthread
  | invitationFindOwned id senderUserId =>
      cases h
      exact Option.some.inj hthread
  | _ =>
      unfold sendMark at h
      obtain ⟨log, -, rfl⟩ := Option.map_eq_some_iff.1 h
      cases hthread

variable [DecidableEq ι]

/-- Nobody else's send has spoiled the counts of the thread. -/
def CountsStand (E : InvitationEnv) (i : ι) (senderUserId : ℕ) (marks : List (SendMark ι)) :
    Prop :=
  quietSince (SendMark.isCount i (some senderUserId)) (SendMark.countsFor (some senderUserId))
      marks = true ∧
    (0 < E.globalHourlyLimit →
      quietSince (SendMark.isCount i none) (SendMark.countsFor none) marks = true)

/-- The condition under which the limits hold: a send is recorded only while the counts it
relies on stand, and a resend only while the invitation was not sent since it was read. -/
def RecordsUndisturbed (E : InvitationEnv) (i : ι) (l : InvitationCall) (s : SendSnapshot ι) :
    Prop :=
  match l with
  | .invitationCreate invitation => CountsStand E i invitation.senderUserId s.marks
  | .invitationResend id _ _ _ senderUserId =>
      CountsStand E i senderUserId s.marks ∧
        quietSince (SendMark.isFind i id) (SendMark.isSendOf id) s.marks = true
  | _ => True

/-- The surroundings of the requests that send. Any call may fail. -/
def sendSetting (E : InvitationEnv) (admits : ι → InvitationCall → SendSnapshot ι → Prop) :
    Setting ι World InvitationCall (SendMark ι) where
  mark := sendMark E
  env := SendsKept
  mayFail := fun _ => True
  admits := admits

end Setting

section Effect

variable {E : InvitationEnv} {l : InvitationCall} {w : World} {log : InvitationSendLog}

theorem rows_insertLog (h : SendLedger E w) (hid : log.id = w.nextSendLog) :
    (w.invitationSendLogs.insertNew log).rows = w.invitationSendLogs.rows ++ [log] := by
  apply Table.insertNew_rows
  rw [Table.find?_eq_none_iff]
  intro r hr
  rw [hid]
  exact Nat.ne_of_lt (h.drawn r hr).1

/-- A call that records a send does what a send does. -/
theorem SendLedger.sends (h : SendLedger E w) (hlog : l.sentLog E w = some log) :
    Sends log w (l.effect E w) := by
  cases l with
  | invitationCreate invitation =>
      dsimp only [sentLog] at hlog
      split at hlog
      · cases hlog
      rename_i hfree
      cases hlog
      have heffect : (invitationCreate invitation).effect E w =
          { w with
            invitationSendLogs := w.invitationSendLogs.insertNew
              (queuedLog E w.nextSendLog { invitation with id := w.nextInvitation }
                invitation.senderUserId invitation.sentAt)
            nextInvitation := w.nextInvitation + 1
            nextSendLog := w.nextSendLog + 1
            invitations := w.invitations.insertNew
              { invitation with id := w.nextInvitation } } := by
        simp only [effect, onLogs, onInvitations, if_neg hfree]
      have hnew : w.invitations.find? w.nextInvitation = none := by
        rw [Table.find?_eq_none_iff]
        exact fun v hv => Nat.ne_of_lt (h.known v hv)
      rw [heffect]
      constructor
      · rfl
      · exact rows_insertLog h rfl
      · rfl
      · rfl
      · exact Nat.le_succ _
      · exact Nat.lt_succ_self _
      · intro v' hv'
        rw [Table.insertNew_rows hnew, List.mem_append, List.mem_singleton] at hv'
        rcases hv' with hv' | rfl
        · exact .inr ⟨Nat.ne_of_lt (h.known v' hv'), v', hv', rfl, rfl⟩
        · exact .inl ⟨rfl, rfl⟩
  | invitationResend id tokenHash date expiresAt senderUserId =>
      dsimp only [sentLog] at hlog
      split at hlog
      · rename_i row hrow
        cases hlog
        have heffect : (invitationResend id tokenHash date expiresAt senderUserId).effect E w =
            { w with
              invitationSendLogs := w.invitationSendLogs.insertNew
                (queuedLog E w.nextSendLog row senderUserId date)
              nextSendLog := w.nextSendLog + 1
              invitations := w.invitations.updateMany (fun r => r.id = id)
                (Invitation.resent tokenHash date expiresAt)
                (Invitation.resent_id tokenHash date expiresAt) } := by
          simp only [effect, onLogs, onInvitations, hrow]
        obtain ⟨v, hv, hvrow⟩ := resentRow_eq_ok hrow
        have hid : row.id = id := id_of_resentRow hrow
        have hknown : id < w.nextInvitation :=
          Table.key_of_find? hv ▸ h.known v (Table.mem_of_find? hv)
        rw [heffect]
        constructor
        · rfl
        · exact rows_insertLog h rfl
        · rfl
        · rfl
        · exact Nat.le_refl _
        · exact hid.symm ▸ hknown
        · intro v' hv'
          obtain ⟨v, hv, rfl⟩ := List.mem_map.1 hv'
          by_cases hvid : v.id = id
          · rw [if_pos (decide_eq_true hvid)]
            exact .inl ⟨hvid.trans hid.symm, rfl⟩
          · rw [if_neg (by simpa using hvid)]
            exact .inr ⟨fun he => hvid (he.trans hid), v, hv, rfl, rfl⟩
      · cases hlog
  | _ => cases hlog

theorem SendsKept.of_eq {w' : World} (hnow : w'.now = w.now)
    (hlog : w'.invitationSendLogs = w.invitationSendLogs) (hinv : w'.invitations = w.invitations)
    (hnext : w'.nextSendLog = w.nextSendLog) (hnext' : w'.nextInvitation = w.nextInvitation) :
    SendsKept w w' where
  now := Int.le_of_eq hnow.symm
  log := fun r hr => ⟨r, hlog ▸ hr, rfl, rfl, rfl, rfl, id⟩
  invitation := fun v hv => ⟨v, hinv ▸ hv, rfl, rfl⟩
  nextSendLog := Nat.le_of_eq hnext.symm
  nextInvitation := Nat.le_of_eq hnext'.symm

/-- The calls of the requests that send, beside the two that record one. -/
def InvitationCall.leavesSends : InvitationCall → Prop
  | dateNow | isActiveCode _ | userFindByEmail _ | invitationFindPending _ _
  | invitationFindOwned _ _ | sendLogCount _ _ | sendLogFindLast _ | randomBytes
  | setImmediate _ | invitationCreate _ | invitationResend _ _ _ _ _ => True
  | _ => False

/-- The other calls, and a recording that does not go through, leave the sends. -/
theorem leavesSends_kept (hl : l.leavesSends) (hlog : l.sentLog E w = none) :
    SendsKept w (l.effect E w) := by
  cases l with
  | invitationCreate invitation =>
      dsimp only [sentLog] at hlog
      split at hlog
      · rename_i hviolates
        have heffect : (invitationCreate invitation).effect E w = w := by
          simp only [effect, onLogs, onInvitations, if_pos hviolates]
        rw [heffect]
        exact .of_eq rfl rfl rfl rfl rfl
      · cases hlog
  | invitationResend id tokenHash date expiresAt senderUserId =>
      dsimp only [sentLog] at hlog
      split at hlog
      · cases hlog
      · rename_i e he
        have heffect :
            (invitationResend id tokenHash date expiresAt senderUserId).effect E w = w := by
          simp only [effect, onLogs, onInvitations, he]
        rw [heffect]
        exact .of_eq rfl rfl rfl rfl rfl
  | userFindUnique _ | invitationFindByToken _ | invitationRevoke _ _ | invitationSweep _ _
  | invitationAcceptByToken _ _ _ | invitationAcceptByEmail _ _ _ | sendLogSent _
  | deliveryFailed _ _ _ | sendMail _ => exact hl.elim
  | _ => exact .of_eq rfl rfl rfl rfl rfl

end Effect

section Knowledge

variable {ι : Type*} {E : InvitationEnv}

/-- A fact that the others keep, unless they send something `bad`. -/
structure Undisturbed (bad : SendMark ι → Bool) (K : World → Prop) : Prop where
  kept : ∀ w w', SendsKept w w' → K w → K w'
  sends : ∀ log w w', Sends log w w' → bad (.sent log.senderUserId log.invitationId) = false →
    K w → K w'

variable {ask bad : SendMark ι → Bool} {K : World → Prop}

theorem undisturbed_count (senderUserId : Option ℕ) (start : Time) (limit : ℕ) :
    Undisturbed (ι := ι) (SendMark.countsFor senderUserId)
      fun w => countSends senderUserId start w < limit where
  kept := fun _ _ hkept h => Nat.lt_of_le_of_lt (countSends_le_of_kept hkept) h
  sends := fun _ _ _ hsends hbad h => (countSends_of_sends hsends hbad).symm ▸ h

/-- The sends of an invitation lie before a date, those that did not fail by so much. -/
def SendsLieBack (id : ℕ) (gap : ℤ) (date : Time) (w : World) : Prop :=
  ∀ r ∈ w.invitationSendLogs.rows, r.invitationId = id →
    r.sentAt ≤ date ∧ (r.outcome ≠ .failed → r.sentAt + gap ≤ date)

theorem undisturbed_lieBack (id : ℕ) (gap : ℤ) (date : Time) :
    Undisturbed (ι := ι) (SendMark.isSendOf id) (SendsLieBack id gap date) where
  kept := by
    intro w w' hkept h r' hr' hid
    obtain ⟨r, hr, -, hinv, -, hsent, hfailed⟩ := hkept.log r' hr'
    have hback := h r hr (hinv.trans hid)
    rw [hsent] at hback
    exact ⟨hback.1, fun hr₀ => hback.2 fun he => hr₀ (hfailed he)⟩
  sends := by
    intro log w w' hsends hbad h r' hr' hid
    rw [hsends.rows, List.mem_append, List.mem_singleton] at hr'
    rcases hr' with hr' | rfl
    · exact h r' hr' hid
    · have hne : r'.invitationId ≠ id := of_decide_eq_false hbad
      exact absurd hid hne

variable [DecidableEq ι] {i : ι}

/-- The protocol of the sends. -/
def sendProtocol (E : InvitationEnv) :
    Protocol (sendSetting (ι := ι) E (RecordsUndisturbed E)) where
  effect := InvitationCall.effect E
  permits := fun _ l s => l.leavesSends ∧ ∀ log, l.sentLog E s.state = some log →
    MaySend E log s.state
  inv := fun s => SendLedger E s.state
  inv_call := by
    rintro i l s hinv ⟨hl, hmay⟩ -
    cases hlog : l.sentLog E s.state with
    | none => exact hinv.kept (leavesSends_kept hl hlog)
    | some log => exact hinv.send (hmay log hlog) (hinv.sends hlog)
  inv_env := fun henv hinv => hinv.kept henv

/-- Time does not go back. -/
theorem lasting_date (date : Time) :
    (sendProtocol E).Lasting i (fun _ => false) fun s => date ≤ s.state.now := by
  apply Protocol.Lasting.of_kept
  · rintro j l s hinv ⟨hl, -⟩ - h
    cases hlog : l.sentLog E s.state with
    | none => exact Int.le_trans h (leavesSends_kept hl hlog).now
    | some log =>
        have hnow : (l.effect E s.state).now = s.state.now := (hinv.sends hlog).now
        exact Int.le_trans h (Int.le_of_eq hnow.symm)
  · exact fun w w' m _ hkept h => Int.le_trans h hkept.now

theorem Undisturbed.lasting (hK : Undisturbed bad K)
    (hask : ∀ m, ask m = true → m.thread = some i) :
    (sendProtocol E).Lasting i ask (KnownSince ask bad K) := by
  apply Protocol.Lasting.known
  · rintro j l s hinv ⟨hl, -⟩ - hgood h
    cases hlog : l.sentLog E s.state with
    | none => exact hK.kept _ _ (leavesSends_kept hl hlog) h
    | some log =>
        exact hK.sends log _ _ (hinv.sends hlog) (hgood _ (sendMark_of_sentLog hlog)) h
  · exact fun w w' _ _ hkept h => hK.kept w w' hkept h
  · exact fun j l w m hm h => thread_of_sendMark hm (hask m h)

end Knowledge

end FifiAlert
